import Ticketing.Transactional.Progress
import Ticketing.Transactional.Trail

/-!
# Objects behind a lock

Several threads call an object whose methods all run under one lock.  A method
is a program of small statements, and the threads run statement by statement, in
any order; a thread that finds the lock taken waits.

## Main Definitions

* `monitor` — the statements of the object, and those of its lock
* `Program.perform` — a method run alone
* `synchronized` — a method under the lock
* `client` — a thread that calls one method after another
* `turns` — the clients in the order in which they have released the lock

## Main Results

* `monitor_linearizes` — what the threads have been answered is what the object
  answers when it is called serially, in the order of `turns`
* `monitor_moves` — as long as one thread has not ended, one of them can move

## Design Notes

A call takes effect at its release, which lies between its first and its last
statement; the log of a run only grows, so of two calls that do not overlap the
earlier one comes first in the serial order.  A method leaves the lock free when
it raises, too.
-/

namespace Transactional

open Program

variable {S : Signature} {ι W ε Op α β : Type}

/-! ## Methods -/

namespace Program

/-- Run a method alone: `apply` is what one statement does. -/
def perform (apply : (stmt : S.Stmt) → W → S.Res stmt × W) : Program S ε α → W → Except ε α × W
  | done value, world => (.ok value, world)
  | raise error, world => (.error error, world)
  | begin rest, world => rest.perform apply world
  | commit rest, world => rest.perform apply world
  | call stmt next, world => (next (apply stmt world).1).perform apply (apply stmt world).2

/-- `holds` in front of every statement of a method, and at its end. -/
def Throughout (apply : (stmt : S.Stmt) → W → S.Res stmt × W) (holds : W → Prop) :
    Program S ε α → W → Prop
  | done _, world => holds world
  | raise _, world => holds world
  | begin rest, world => rest.Throughout apply holds world
  | commit rest, world => rest.Throughout apply holds world
  | call stmt next, world =>
      holds world ∧ (next (apply stmt world).1).Throughout apply holds (apply stmt world).2

theorem Throughout.here {apply : (stmt : S.Stmt) → W → S.Res stmt × W} {holds : W → Prop}
    {program : Program S ε α} {world : W} (throughout : program.Throughout apply holds world) :
    holds world := by
  induction program with
  | done value => exact throughout
  | raise error => exact throughout
  | begin rest ih => exact ih throughout
  | commit rest ih => exact ih throughout
  | call stmt next => exact throughout.1

end Program

/-! ## The lock -/

/-- The statements of an object behind a lock. -/
inductive MonitorStmt (S : Signature)
  | acquire
  | release
  | inner (stmt : S.Stmt)

@[reducible] def MonitorStmt.Res : MonitorStmt S → Type
  | .acquire => Unit
  | .release => Unit
  | .inner stmt => S.Res stmt

@[reducible] def monitor (S : Signature) : Signature := ⟨MonitorStmt S, MonitorStmt.Res⟩

/-- An object with the owner of its lock. -/
structure Guarded (ι W : Type) where
  owner : Option ι
  value : W

/-- One statement of one thread; `none` while it waits for the lock. -/
def Guarded.exec (apply : (stmt : S.Stmt) → W → S.Res stmt × W) (agent : ι) :
    (stmt : MonitorStmt S) → Guarded ι W → Option (Except ε (stmt.Res × Guarded ι W))
  | .acquire, world =>
      match world.owner with
      | none => some (.ok ((), { world with owner := some agent }))
      | some _ => none
  | .release, world => some (.ok ((), { world with owner := none }))
  | .inner stmt, world =>
      some (.ok ((apply stmt world.value).1, { world with value := (apply stmt world.value).2 }))

/-- The object as the threads `ι` share it.  There is nothing to commit. -/
def monitorEngine (ι : Type) (apply : (stmt : S.Stmt) → W → S.Res stmt × W) :
    Engine (monitor S) ι Unit (Guarded ι W) ε where
  exec agent _ := Guarded.exec apply agent
  commit _ world := world
  rollback _ world := world

/-- The rest of a method that runs under the lock: it gives the lock back however it ends. -/
def Program.underLock : Program S ε α → Program (monitor S) ε α
  | done value => call (S := monitor S) .release fun _ => done value
  | raise error => call (S := monitor S) .release fun _ => raise error
  | begin rest => rest.underLock
  | commit rest => rest.underLock
  | call stmt next => call (S := monitor S) (.inner stmt) fun answer => (next answer).underLock

/-- `with lock:` around a method. -/
def synchronized (method : Program S ε α) : Program (monitor S) ε α :=
  call (S := monitor S) .acquire fun _ => method.underLock

/-- A thread that makes the calls of a list and collects their answers. -/
def client (method : Op → Program S ε α) : List Op → List α → Program (monitor S) ε (List α)
  | [], answers => done answers
  | op :: rest, answers =>
      synchronized (method op) >>= fun answer => client method rest (answers ++ [answer])

/-- The threads in the order in which they have released the lock. -/
def turns (log : List (ι × Event (monitor S))) : List ι :=
  (log.filter fun entry =>
    match entry.2.stmt with
    | .release => true
    | _ => false).map Prod.fst

section Turns

variable (log : List (ι × Event (monitor S))) (agent : ι)

@[simp] theorem turns_acquire : turns (log ++ [(agent, ⟨.acquire, ()⟩)]) = turns log := by
  simp [turns]

@[simp] theorem turns_inner (stmt : S.Stmt) (answer : S.Res stmt) :
    turns (log ++ [(agent, ⟨.inner stmt, answer⟩)]) = turns log := by
  simp [turns]

@[simp] theorem turns_release :
    turns (log ++ [(agent, ⟨.release, ()⟩)]) = turns log ++ [agent] := by
  simp [turns]

end Turns

/-! ## One step -/

section Runs

variable [DecidableEq ι]

/-- A step of a client outside of any transaction, which nothing hits. -/
theorem System.step_call {I W ε : Type} {engine : Engine S ι I W ε} {system : System S ι W ε α}
    {agent : ι} {input : I} {stmt : S.Stmt} {next : S.Res stmt → Program S ε α}
    (located : system.thread agent = ⟨call stmt next, none⟩) {answer : S.Res stmt} {world : W}
    (result : engine.exec agent input stmt system.world = some (.ok (answer, world))) :
    system.step engine ⟨agent, input, none⟩
      = some { system.setThread agent ⟨next answer, none⟩ with
          world := engine.commit agent world
          log := system.log ++ [(agent, ⟨stmt, answer⟩)] } := by
  simp only [System.step, located, result]

/-- The calls of one thread. -/
def callsOf (agent : ι) (served : List (ι × Op)) : List Op :=
  (served.filter (·.1 = agent)).map Prod.snd

theorem callsOf_concat_self (agent : ι) (served : List (ι × Op)) (op : Op) :
    callsOf agent (served ++ [(agent, op)]) = callsOf agent served ++ [op] := by
  simp [callsOf]

theorem callsOf_concat_of_ne {agent other : ι} (served : List (ι × Op)) (op : Op)
    (different : other ≠ agent) :
    callsOf other (served ++ [(agent, op)]) = callsOf other served := by
  simp [callsOf, different.symm]

variable (apply : (stmt : S.Stmt) → W → S.Res stmt × W) (method : Op → Program S ε α)
  (spec : W → Op → α × W) (valid bounded : W → Prop)

/-- The methods do what `spec` says to valid objects, and leave them valid; on the
way the object is `bounded`. -/
structure Implements : Prop where
  plain : ∀ op, (method op).Plain
  performs : ∀ op world, valid world →
    (method op).perform apply world = (.ok (spec world op).1, (spec world op).2)
  valid_after : ∀ op world, valid world → valid (spec world op).2
  throughout : ∀ op world, valid world → (method op).Throughout apply bounded world
  bounded_of_valid : ∀ world, valid world → bounded world

/-- The serial run of the calls `served`. -/
def serially (served : List (ι × Op)) (initial : W) : List α × W :=
  replay (fun world (request : ι × Op) => spec world request.2) served initial

/-- What a thread has been answered. -/
def answered (served : List (ι × Op)) (initial : W) (agent : ι) : List α :=
  answersTo (fun request => decide (request.1 = agent)) served (serially spec served initial).1

omit [DecidableEq ι] in
theorem serially_concat (served : List (ι × Op)) (initial : W) (agent : ι) (op : Op) :
    serially spec (served ++ [(agent, op)]) initial
      = ((serially spec served initial).1 ++ [(spec (serially spec served initial).2 op).1],
          (spec (serially spec served initial).2 op).2) :=
  replay_concat ..

omit [DecidableEq ι] in
theorem length_serially (served : List (ι × Op)) (initial : W) :
    (serially spec served initial).1.length = served.length :=
  length_replay ..

theorem answered_concat_self (served : List (ι × Op)) (initial : W) (agent : ι) (op : Op) :
    answered spec (served ++ [(agent, op)]) initial agent
      = answered spec served initial agent ++ [(spec (serially spec served initial).2 op).1] := by
  simp only [answered, serially_concat]
  rw [answersTo_concat _ (length_serially ..)]
  simp

theorem answered_concat_of_ne {agent other : ι} (served : List (ι × Op)) (initial : W) (op : Op)
    (different : other ≠ agent) :
    answered spec (served ++ [(agent, op)]) initial other = answered spec served initial other := by
  simp only [answered, serially_concat]
  rw [answersTo_concat _ (length_serially ..)]
  simp [different.symm]

/-- The calls `served` have been made: every thread but the owner of the lock
stands in front of its next call, and the owner is in the middle of a call that
ends as it does serially. -/
structure Serves (calls : ι → List Op) (initial : W) (served : List (ι × Op))
    (system : System (monitor S) ι (Guarded ι W) ε (List α)) : Prop where
  turns : served.map Prod.fst = turns system.log
  outside : ∀ agent, system.world.owner ≠ some agent → ∃ rest,
    callsOf agent served ++ rest = calls agent ∧
    system.thread agent = ⟨client method rest (answered spec served initial agent), none⟩
  free : system.world.owner = none → system.world.value = (serially spec served initial).2
  inside : ∀ agent, system.world.owner = some agent → ∃ op rest, ∃ body : Program S ε α,
    callsOf agent served ++ op :: rest = calls agent ∧ body.Plain ∧
    system.thread agent = ⟨body.underLock >>= fun answer =>
      client method rest (answered spec served initial agent ++ [answer]), none⟩ ∧
    body.perform apply system.world.value
      = (.ok (spec (serially spec served initial).2 op).1,
          (spec (serially spec served initial).2 op).2) ∧
    body.Throughout apply bounded system.world.value

variable {apply method spec valid bounded} {calls : ι → List Op} {initial : W}
  {served : List (ι × Op)} {system system' : System (monitor S) ι (Guarded ι W) ε (List α)}

/-- Nothing has been served yet. -/
theorem Serves.atStart (calls : ι → List Op) (initial : W) :
    Serves apply method spec bounded calls initial []
      (System.start ⟨none, initial⟩ fun agent => client method (calls agent) []) where
  turns := rfl
  outside agent _ := ⟨calls agent, rfl, rfl⟩
  free _ := rfl
  inside agent owned := by cases owned

omit [DecidableEq ι] in
/-- The serial run keeps the object valid. -/
theorem Implements.valid_serially (implements : Implements apply method spec valid bounded)
    (initially : valid initial) (served : List (ι × Op)) : valid (serially spec served initial).2 :=
  replay_of_step valid (fun world (request : ι × Op) => implements.valid_after request.2 world)
    served initially

/-- **One statement of one thread.** -/
theorem Serves.step (implements : Implements apply method spec valid bounded)
    (initially : valid initial)
    (serves : Serves apply method spec bounded calls initial served system)
    {action : Action ι Unit ε} (unharmed : action.fault = none)
    (stepped : system.step (monitorEngine ι apply) action = some system') :
    ∃ served', Serves apply method spec bounded calls initial served' system' := by
  obtain ⟨agent, input, fault⟩ := action
  obtain rfl : fault = none := unharmed
  set engine : Engine (monitor S) ι Unit (Guarded ι W) ε := monitorEngine ι apply with engineEq
  have elsewhere {thread : Thread (monitor S) ε (List α)} (other : ι) (different : other ≠ agent) :
      (system.setThread agent thread).thread other = system.thread other :=
    System.setThread_of_ne other different
  by_cases owned : system.world.owner = some agent
  -- the owner goes on with its method
  · obtain ⟨op, rest, body, program, plain, located, performs, throughout⟩ :=
      serves.inside agent owned
    have othersOutside (other : ι) (different : other ≠ agent) :
        system.world.owner ≠ some other := by
      rw [owned]
      exact fun same => different (Option.some.inj same).symm
    cases plain with
    | done value =>
        -- the release: the call has been served
        have result : engine.exec agent input .release system.world
          = some (.ok ((), { system.world with owner := none })) := rfl
        rw [System.step_call located result] at stepped
        cases stepped
        obtain ⟨answerEq, valueEq⟩ := Prod.mk.inj performs
        refine ⟨served ++ [(agent, op)], ?_, ?_, ?_, ?_⟩
        · rw [List.map_append, serves.turns]
          exact (turns_release system.log agent).symm
        · intro other _
          by_cases same : other = agent
          · subst same
            refine ⟨rest, ?_, ?_⟩
            · rw [callsOf_concat_self, List.append_assoc]
              exact program
            · rw [answered_concat_self, ← Except.ok.inj answerEq]
              exact System.setThread_self
          · obtain ⟨rest', program', located'⟩ := serves.outside other (othersOutside other same)
            refine ⟨rest', ?_, ?_⟩
            · rw [callsOf_concat_of_ne _ _ same]
              exact program'
            · rw [answered_concat_of_ne _ _ _ _ same]
              exact (elsewhere other same).trans located'
        · intro _
          rw [serially_concat]
          exact valueEq
        · intro other taken
          cases taken
    | raise error => cases (Prod.mk.inj performs).1
    | @call stmt next plain =>
        have result : engine.exec agent input (.inner stmt) system.world
          = some (.ok ((apply stmt system.world.value).1,
              { system.world with value := (apply stmt system.world.value).2 })) := rfl
        rw [System.step_call located result] at stepped
        cases stepped
        refine ⟨served, ?_, ?_, ?_, ?_⟩
        · rw [serves.turns]
          exact (turns_inner system.log agent stmt _).symm
        · intro other notOwner
          have different : other ≠ agent := fun same => notOwner (same ▸ owned)
          obtain ⟨rest', program', located'⟩ := serves.outside other notOwner
          exact ⟨rest', program', (elsewhere other different).trans located'⟩
        · intro nobody
          cases owned.symm.trans nobody
        · intro other owner
          obtain rfl : agent = other := Option.some.inj (owned.symm.trans owner)
          exact ⟨op, rest, _, program, plain _, System.setThread_self, performs, throughout.2⟩
  -- another thread can only ask for the lock
  · obtain ⟨rest, program, located⟩ := serves.outside agent owned
    cases rest with
    | nil =>
        simp only [System.step, located, client] at stepped
        cases stepped
    | cons op rest =>
        cases owner : system.world.owner with
        | some other =>
            have waits : engine.exec agent input .acquire system.world = none := by
              simp only [engineEq, monitorEngine, Guarded.exec, owner]
            simp only [System.step, located, client, synchronized, call_bind, waits] at stepped
            cases stepped
        | none =>
            have result : engine.exec agent input .acquire system.world
                = some (.ok ((), { system.world with owner := some agent })) := by
              simp only [engineEq, monitorEngine, Guarded.exec, owner]
            rw [System.step_call located result] at stepped
            cases stepped
            have value := serves.free owner
            have reached : valid system.world.value :=
              value ▸ implements.valid_serially initially served
            refine ⟨served, ?_, ?_, ?_, ?_⟩
            · rw [serves.turns]
              exact (turns_acquire system.log agent).symm
            · intro other notOwner
              have different : other ≠ agent := fun same => notOwner (same ▸ rfl)
              obtain ⟨rest', program', located'⟩ := serves.outside other (by simp [owner])
              exact ⟨rest', program', (elsewhere other different).trans located'⟩
            · intro nobody
              cases nobody
            · intro other taken
              obtain rfl : agent = other := Option.some.inj taken
              refine ⟨op, rest, method op, program, implements.plain op, System.setThread_self,
                ?_, implements.throughout op _ reached⟩
              rw [← value]
              exact implements.performs op _ reached

/-! ## Whole runs -/

/-- **Linearizability.**  Whatever the threads have done so far, the calls that
have been answered are those of a serial run in the order of the releases. -/
theorem monitor_linearizes (implements : Implements apply method spec valid bounded)
    (initially : valid initial)
    (reached : Reaches (monitorEngine ι apply) (fun _ action => action.fault = none)
      (System.start ⟨none, initial⟩ fun agent => client method (calls agent) []) system) :
    ∃ served, Serves apply method spec bounded calls initial served system := by
  refine reached.invariant
    (fun system => ∃ served, Serves apply method spec bounded calls initial served system)
    ⟨[], .atStart calls initial⟩ ?_
  rintro before after action ⟨served, serves⟩ unharmed stepped
  exact serves.step implements initially unharmed stepped

/-- The object never leaves its bounds. -/
theorem Serves.within_bounds (serves : Serves apply method spec bounded calls initial served system)
    (implements : Implements apply method spec valid bounded) (initially : valid initial) :
    bounded system.world.value := by
  cases owner : system.world.owner with
  | none =>
      rw [serves.free owner]
      exact implements.bounded_of_valid _ (implements.valid_serially initially served)
  | some agent =>
      obtain ⟨_, _, _, -, -, -, -, throughout⟩ := serves.inside agent owner
      exact throughout.here

/-- A thread that has ended has made its calls. -/
theorem Serves.ended (serves : Serves apply method spec bounded calls initial served system)
    {agent : ι} {answers : List α} (ended : (system.thread agent).program = .done answers) :
    callsOf agent served = calls agent ∧ answers = answered spec served initial agent := by
  by_cases owned : system.world.owner = some agent
  · obtain ⟨_, _, body, -, plain, located, -⟩ := serves.inside agent owned
    rw [located] at ended
    cases plain <;> cases ended
  · obtain ⟨rest, program, located⟩ := serves.outside agent owned
    rw [located] at ended
    cases rest with
    | nil =>
        cases ended
        exact ⟨by simpa using program, rfl⟩
    | cons op rest => cases ended

/-- **No thread waits for ever**: one of those that have not ended can move. -/
theorem Serves.moves (serves : Serves apply method spec bounded calls initial served system)
    (running : ∃ agent, ¬ (system.thread agent).Ended) :
    ∃ agent after, system.step (monitorEngine ι apply) ⟨agent, (), none⟩ = some after := by
  cases owner : system.world.owner with
  | some agent =>
      obtain ⟨_, _, body, -, plain, located, -⟩ := serves.inside agent owner
      cases plain with
      | done value => exact ⟨agent, _, System.step_call located rfl⟩
      | raise error => exact ⟨agent, _, System.step_call located rfl⟩
      | call plain => exact ⟨agent, _, System.step_call located rfl⟩
  | none =>
      obtain ⟨agent, notEnded⟩ := running
      obtain ⟨rest, -, located⟩ := serves.outside agent (by simp [owner])
      cases rest with
      | nil =>
          rw [located] at notEnded
          exact absurd (.inl ⟨_, rfl⟩) notEnded
      | cons op rest =>
          have result : (monitorEngine ι apply : Engine (monitor S) ι Unit (Guarded ι W) ε).exec
              agent () .acquire system.world
                = some (.ok ((), { system.world with owner := some agent })) := by
            simp only [monitorEngine, Guarded.exec, owner]
          exact ⟨agent, _, System.step_call located result⟩

/-- Finitely many threads always come to an end. -/
theorem Serves.completes [Finite ι] (implements : Implements apply method spec valid bounded)
    (initially : valid initial)
    (serves : Serves apply method spec bounded calls initial served system) :
    ∃ schedule after, (∀ action ∈ schedule, action.fault = none) ∧
      system.run (monitorEngine ι apply) schedule = some after ∧
      ∀ agent, (after.thread agent).Ended := by
  refine Transactional.completes (fun system =>
    ∃ served, Serves apply method spec bounded calls initial served system) ?_ ?_ ⟨served, serves⟩
  · rintro before after action ⟨served, serves⟩ unharmed stepped
    exact serves.step implements initially unharmed stepped
  · rintro system ⟨served, serves⟩ running
    obtain ⟨agent, after, stepped⟩ := serves.moves running
    exact ⟨_, after, rfl, stepped⟩

end Runs

end Transactional
