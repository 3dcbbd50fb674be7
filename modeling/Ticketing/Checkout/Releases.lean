import Ticketing.Checkout.ReleaseCalls

/-!
# Concurrent releases of one hold

Any number of calls that release the same hold, by themselves or from the timeout task, which
decides on a read without a lock.

## Main Definitions

* `Calm`, `Held` — nobody owns a row, or one call does and is going to do what it would do alone

## Main Results

* `calmOrHeld_of_reaches` — every state reached is one of the two
* `releases_count_once` — the stores in the end are those of one release

## Design Notes

The calls meet no exception from outside.  A `SELECT FOR UPDATE` that finds the row locked has no
step until the lock is gone; its filter is then applied to the version it finds.
-/

namespace Ticketing

open Transactional Program

/-! ## The run -/

section Runs

variable {ι : Type} [DecidableEq ι]

/-- What is committed, and Redis. -/
def SharedWorld.committed (world : SharedWorld ι) : World := ⟨world.db, world.redis⟩

theorem Outside.mono {holdToken : String} {world : World} {proceeds settled settled' : Prop}
    {thread : Thread signature CheckoutError Unit}
    (outside : Outside holdToken world proceeds settled thread) (implies : settled → settled') :
    Outside holdToken world proceeds settled' thread := by
  cases outside with
  | release goesOn => exact .release goesOn
  | timeout parsed early => exact .timeout parsed early
  | clock parsed stored early => exact .clock parsed stored early
  | select parsed goesOn => exact .select parsed goesOn
  | ignore isSettled => exact .ignore (implies isSettled)
  | ended isSettled => exact .ended fun goesOn => implies (isSettled goesOn)
  | raised raises => exact .raised raises

variable (calls : ι → ReleaseCall) (holdToken : String) (world : World)

/-- One of the calls goes on to release the hold. -/
abbrev GoesOn (system : System signature ι (SharedWorld ι) CheckoutError Unit) (agent : ι) : Prop :=
  Proceeds holdToken world (calls agent) (durable agent system.log)

/-- The stores are those of a release that has returned. -/
abbrev Released (stores : World) : Prop :=
  releaseOutcome holdToken world = (.returned (), stores)

/-- Nobody owns a row; the stores are as at the start, or as one release leaves them. -/
structure Calm (system : System signature ι (SharedWorld ι) CheckoutError Unit) : Prop where
  nobody : ∀ agent, SharedWorld.own agent system.world = .nothing
  stores : system.world.committed = world ∨
    Released holdToken world system.world.committed ∧
      ∃ agent, GoesOn calls holdToken world system agent
  outside : ∀ agent, Outside holdToken world (GoesOn calls holdToken world system agent)
    (Released holdToken world system.world.committed) (system.thread agent)

/-- One call has locked the ACTIVE hold, and is going to do what it would do alone. -/
structure Held (holder : ι) (system : System signature ι (SharedWorld ι) CheckoutError Unit) :
    Prop where
  others : ∀ other, other ≠ holder → SharedWorld.own other system.world = .nothing
  db : system.world.db = world.db
  locked : ∃ token hold row, Uuid.parse holdToken = some token ∧
    world.db.holds.get token = some hold ∧ hold.status = .active ∧
    (SharedWorld.own holder system.world).holds token = some row
  inside : Inside (viewed ι) world (releaseOutcome holdToken world) holder system
  goesOn : GoesOn calls holdToken world system holder
  outside : ∀ other, other ≠ holder →
    Outside holdToken world (GoesOn calls holdToken world system other) False (system.thread other)

/-- Every state of a run is one of the two. -/
def CalmOrHeld (system : System signature ι (SharedWorld ι) CheckoutError Unit) : Prop :=
  Calm calls holdToken world system ∨ ∃ holder, Held calls holdToken world holder system

variable {calls holdToken world}
  {system system' : System signature ι (SharedWorld ι) CheckoutError Unit}
  {action : Action ι Input CheckoutError}

/-- While an ACTIVE hold is committed, the stores are as at the start. -/
theorem Calm.stores_of_active (calm : Calm calls holdToken world system) {token : Uuid}
    {hold : CheckoutHold} (parsed : Uuid.parse holdToken = some token)
    (stored : system.world.db.holds.get token = some hold) (active : hold.status = .active) :
    system.world.committed = world ∧ ¬ Released holdToken world system.world.committed := by
  have unreleased : ¬ Released holdToken world system.world.committed := fun released =>
    not_active_of_released released parsed stored active
  exact ⟨calm.stores.resolve_right fun released => unreleased released.1, unreleased⟩

/-- Without one, the hold has been dealt with. -/
theorem Calm.released_of_not_active (calm : Calm calls holdToken world system) {token : Uuid}
    (parsed : Uuid.parse holdToken = some token)
    (inactive : ∀ hold, system.world.db.holds.get token = some hold → hold.status ≠ .active) :
    Released holdToken world system.world.committed := by
  rcases calm.stores with start | ⟨released, -⟩
  · have atStart : system.world.db = world.db := congrArg World.db start
    rw [start]
    exact releaseOutcome_of_not_active parsed (atStart ▸ inactive)
  · exact released

/-- A step that leaves the stores alone. -/
theorem Calm.stays (calm : Calm calls holdToken world system)
    (step : Step (engine ι) system action system') {events : List (Event signature)}
    (sameWorld : system'.world = system.world)
    (added : system'.log = system.log ++ events.map (action.agent, ·))
    (still : Outside holdToken world (Proceeds holdToken world (calls action.agent)
      (durable action.agent system.log ++ events))
      (Released holdToken world system.world.committed) (system'.thread action.agent)) :
    Calm calls holdToken world system' := by
  have grows (agent : ι) (goesOn : GoesOn calls holdToken world system agent) :
      GoesOn calls holdToken world system' agent := by
    by_cases same : agent = action.agent
    · subst same
      rw [GoesOn, added, durable_append_self]
      exact goesOn.append events
    · rwa [GoesOn, added, durable_append_of_ne _ _ same]
  refine ⟨fun agent => by rw [sameWorld, calm.nobody], ?_, fun agent => ?_⟩
  · rw [sameWorld]
    exact calm.stores.imp_right (And.imp_right fun ⟨agent, goesOn⟩ => ⟨agent, grows agent goesOn⟩)
  · rw [sameWorld]
    by_cases same : agent = action.agent
    · subst same
      rw [GoesOn, added, durable_append_self]
      exact still
    · rw [GoesOn, added, durable_append_of_ne _ _ same, step.thread_of_ne same]
      exact calm.outside agent

/-- A step that locks the hold. -/
theorem Calm.locks (calm : Calm calls holdToken world system)
    (step : Step (engine ι) system action system') {token : Uuid} {hold : CheckoutHold}
    {holds : VersionedTable Uuid ι CheckoutHold} {events : List (Event signature)}
    (parsed : Uuid.parse holdToken = some token)
    (stored : system.world.db.holds.get token = some hold) (active : hold.status = .active)
    (goesOn : GoesOn calls holdToken world system action.agent)
    (granted : system.world.holds.put action.agent token none = some holds)
    (newWorld : system'.world = { system.world with holds := holds })
    (sameLog : system'.log = system.log)
    (isAt : system'.thread action.agent
      = ⟨returnStock holdToken token hold >>= fun value => commit (done value), some events⟩) :
    Held calls holdToken world action.agent system' := by
  obtain ⟨start, unreleased⟩ := calm.stores_of_active parsed stored active
  have db : system.world.db = world.db := congrArg World.db start
  have redis : system.world.redis = world.redis := congrArg World.redis start
  have touches : SharedWorld.Touches action.agent system.world system'.world :=
    newWorld ▸ .hold granted
  rw [db] at stored
  have owned : SharedWorld.own action.agent system'.world
      = ⟨fun _ => none,
          VersionedTable.single token ⟨system.world.holds.committed.get token, none⟩⟩ := by
    have nothing := calm.nobody action.agent
    rw [newWorld, SharedWorld.own, VersionedTable.own_put_self granted,
      show VersionedTable.own action.agent system.world.tiers = fun _ => none from
        congrArg Own.tiers nothing,
      show VersionedTable.own action.agent system.world.holds = fun _ => none from
        congrArg Own.holds nothing, VersionedTable.update_none]
  -- the lock alone changes nothing of what the call sees
  have view : system'.world.view action.agent = world := by
    have unwritten : (SharedWorld.own action.agent system'.world).Unwritten := by
      rw [owned]
      refine ⟨nofun, fun other row found => ?_⟩
      obtain ⟨-, rfl⟩ := VersionedTable.eq_of_single found
      rfl
    have sameRedis : system'.world.redis = world.redis := by rw [newWorld, ← redis]
    have sameDb := (SharedWorld.view_of_unwritten unwritten).trans (touches.db_eq.trans db)
    exact congr (congrArg World.mk sameDb) sameRedis
  have locked : (SharedWorld.own action.agent system'.world).holds token
      = some ⟨system.world.holds.committed.get token, none⟩ := by
    rw [owned]
    exact VersionedTable.single_self ..
  refine ⟨fun other different => (touches.own_of_ne different).trans (calm.nobody other),
    touches.db_eq.trans db, ⟨token, hold, _, parsed, stored, active, locked⟩,
    ⟨_, events, isAt, returnStock_closes holdToken token hold, fun inputs => ?_⟩,
    by rwa [GoesOn, sameLog], fun other different => ?_⟩
  · rw [show (viewed ι).view action.agent system'.world = world from view,
      returnStock_outcome stored]
    have found : (world.db.holds.get token).filter (·.status = .active) = some hold := by
      rw [stored, Option.filter_some, if_pos (decide_eq_true active)]
    simp only [releaseOutcome, parsed, found]
  · rw [GoesOn, sameLog, step.thread_of_ne different]
    exact (calm.outside other).mono unreleased

/-- **A step from a calm state.** -/
theorem Calm.step (calm : Calm calls holdToken world system)
    (stepped : system.step (engine ι) action = some system') (unharmed : action.fault = none) :
    CalmOrHeld calls holdToken world system' := by
  have step := System.step_sound stepped
  rcases (calm.outside action.agent).step stepped unharmed (calm.nobody action.agent)
    (fun token hold parsed stored active => by
      rw [← congrArg World.db (calm.stores_of_active parsed stored active).1]
      exact stored)
    (fun token parsed inactive => calm.released_of_not_active parsed inactive) with
    ⟨events, sameWorld, added, still⟩ |
      ⟨token, hold, holds, events, parsed, stored, active, goesOn, granted, newWorld, sameLog, isAt⟩
  · exact .inl (calm.stays step sameWorld added still)
  · exact .inr ⟨_, calm.locks step parsed stored active goesOn granted newWorld sameLog isAt⟩

/-- A step of the owner does not move the other calls. -/
theorem Held.outside_step (held : Held calls holdToken world action.agent system)
    (step : Step (engine ι) system action system') {other : ι} (different : other ≠ action.agent)
    (sameLog : durable other system'.log = durable other system.log) {settled : Prop} :
    Outside holdToken world (GoesOn calls holdToken world system' other) settled
      (system'.thread other) := by
  rw [GoesOn, sameLog, step.thread_of_ne different]
  exact (held.outside other different).mono False.elim

/-- Another statement of its transaction. -/
theorem Held.executes (held : Held calls holdToken world action.agent system)
    (step : Step (engine ι) system action system')
    (inside : Inside (viewed ι) world (releaseOutcome holdToken world) action.agent system')
    (sameLog : system'.log = system.log)
    (effect : system'.world = system.world ∨ ∃ stmt answer,
      (engine ι).exec action.agent action.input stmt system.world
        = some (.ok (answer, system'.world))) :
    Held calls holdToken world action.agent system' := by
  obtain ⟨token, hold, row, parsed, stored, active, locked⟩ := held.locked
  have keeps : (∀ other, other ≠ action.agent →
        SharedWorld.own other system'.world = SharedWorld.own other system.world) ∧
      system'.world.db = system.world.db ∧
      ∃ row', (SharedWorld.own action.agent system'.world).holds token = some row' := by
    rcases effect with same | ⟨stmt, answer, executed⟩
    · rw [same]
      exact ⟨fun _ _ => rfl, rfl, row, locked⟩
    · exact ⟨fun other different => (isolation ι).own_exec_of_ne executed different,
        (isolation ι).shared_exec executed,
        (SharedWorld.touches_of_exec executed).keeps_hold locked⟩
  obtain ⟨sameOthers, sameDb, row', locked'⟩ := keeps
  refine ⟨fun other different => (sameOthers other different).trans (held.others other different),
    sameDb.trans held.db, ⟨token, hold, row', parsed, stored, active, locked'⟩, inside, ?_,
    fun other different => held.outside_step step different (by rw [sameLog])⟩
  rw [GoesOn, sameLog]
  exact held.goesOn

/-- Its commit: the stores are those of the release it has carried out. -/
theorem Held.commits (held : Held calls holdToken world action.agent system)
    (step : Step (engine ι) system action system') {value : Unit} {events : List (Event signature)}
    (isAt : system'.thread action.agent = ⟨.done value, none⟩)
    (newWorld : system'.world = (engine ι).commit action.agent system.world)
    (added : system'.log = system.log ++ events.map (action.agent, ·))
    (outcome : releaseOutcome holdToken world
      = (.returned value, (viewed ι).view action.agent system.world)) :
    Calm calls holdToken world system' := by
  have committed : system'.world.committed = system.world.view action.agent := by
    rw [newWorld]
    exact congrArg (World.mk · system.world.redis) (SharedWorld.db_commit action.agent _)
  have released : Released holdToken world system'.world.committed := by
    rw [committed]
    exact outcome
  refine ⟨fun agent => ?_, .inr ⟨released, action.agent, ?_⟩, fun agent => ?_⟩
  · rw [newWorld]
    by_cases same : agent = action.agent
    · rw [same]
      exact (isolation ι).own_commit_self action.agent system.world
    · exact ((isolation ι).own_commit_of_ne system.world same).trans (held.others agent same)
  · rw [GoesOn, added, durable_append_self]
    exact held.goesOn.append events
  · by_cases same : agent = action.agent
    · rw [same, isAt]
      exact .ended fun _ => released
    · exact held.outside_step step same (by rw [added, durable_append_of_ne _ _ same])

/-- Its rollback, after the exception that a release raises: the stores are as at the start. -/
theorem Held.rollsBack (held : Held calls holdToken world action.agent system)
    (step : Step (engine ι) system action system') {error : CheckoutError}
    (isAt : system'.thread action.agent = ⟨.raise error, none⟩)
    (newWorld : system'.world = (engine ι).rollback action.agent system.world)
    (sameLog : system'.log = system.log)
    (outcome : releaseOutcome holdToken world
      = (.raised error, store.rollback world ((viewed ι).view action.agent system.world))) :
    Calm calls holdToken world system' := by
  have unchanged : system'.world.committed = world := by
    have raised := unchanged_of_raised (congrArg Prod.fst outcome)
    rw [outcome] at raised
    have redis : system.world.redis = world.redis := congrArg World.redis raised
    have db := ((isolation ι).shared_rollback action.agent system.world).trans held.db
    rw [newWorld]
    exact congr (congrArg World.mk db) redis
  refine ⟨fun agent => ?_, .inl unchanged, fun agent => ?_⟩
  · rw [newWorld]
    by_cases same : agent = action.agent
    · rw [same]
      exact (isolation ι).own_rollback_self action.agent system.world
    · exact ((isolation ι).own_rollback_of_ne system.world same).trans (held.others agent same)
  · by_cases same : agent = action.agent
    · rw [same, isAt]
      exact .raised (congrArg Prod.fst outcome)
    · exact held.outside_step step same (by rw [sameLog])

/-- **A step of the call that owns the hold.** -/
theorem Held.step_holder (held : Held calls holdToken world action.agent system)
    (step : Step (engine ι) system action system') (unharmed : action.fault = none) :
    CalmOrHeld calls holdToken world system' := by
  rcases step.inside held.inside unharmed with
    ⟨inside, sameLog, effect⟩ | ⟨value, events, isAt, newWorld, added, outcome⟩ |
      ⟨error, isAt, newWorld, sameLog, outcome⟩
  · exact .inr ⟨_, held.executes step inside sameLog effect⟩
  · exact .inl (held.commits step isAt newWorld added outcome)
  · exact .inl (held.rollsBack step isAt newWorld sameLog outcome)

/-- A step of another call: it cannot lock the hold, and does not touch the stores. -/
theorem Held.step_other {holder : ι} (held : Held calls holdToken world holder system)
    (different : action.agent ≠ holder)
    (stepped : system.step (engine ι) action = some system') (unharmed : action.fault = none) :
    Held calls holdToken world holder system' := by
  have step := System.step_sound stepped
  obtain ⟨token, hold, row, parsed, stored, active, locked⟩ := held.locked
  have sameHold (token' : Uuid) (hold' : CheckoutHold) :
      system.world.db.holds.get token' = some hold' → world.db.holds.get token' = some hold' :=
    fun found => held.db ▸ found
  rcases (held.outside action.agent different).step stepped unharmed
    (held.others action.agent different) (fun token' hold' _ found _ => sameHold token' hold' found)
    (fun token' parsed' inactive => by
      obtain rfl := Option.some.inj (parsed.symm.trans parsed')
      exact inactive hold (held.db ▸ stored) active) with
    ⟨events, sameWorld, added, still⟩ | ⟨token', _, holds, _, parsed', -, -, -, granted, -⟩
  · obtain ⟨program, before, isAt, closes, runs⟩ := held.inside
    refine ⟨fun other apart => by rw [sameWorld, held.others other apart], sameWorld ▸ held.db,
      ⟨token, hold, row, parsed, stored, active, sameWorld ▸ locked⟩,
      ⟨program, before, (step.thread_of_ne different.symm).trans isAt, closes, sameWorld ▸ runs⟩,
      ?_, fun other apart => ?_⟩
    · rw [GoesOn, added, durable_append_of_ne _ _ different.symm]
      exact held.goesOn
    · by_cases same : other = action.agent
      · subst same
        rw [GoesOn, added, durable_append_self]
        exact still
      · rw [GoesOn, added, durable_append_of_ne _ _ same, step.thread_of_ne same]
        exact held.outside other apart
  · obtain rfl := Option.some.inj (parsed.symm.trans parsed')
    have free := (VersionedTable.put_eq_some granted).2 holder different.symm
    cases free.symm.trans locked

/-- At the start everything is calm. -/
theorem calm_start : Calm calls holdToken world
    (System.start (.ofWorld world) fun agent => (calls agent).program holdToken) where
  nobody agent := SharedWorld.own_ofWorld agent world
  stores := .inl (congrArg (World.mk · world.redis) (SharedWorld.db_ofWorld world))
  outside agent := by
    show Outside holdToken world (Proceeds holdToken world (calls agent) []) _
      ⟨(calls agent).program holdToken, none⟩
    cases call : calls agent with
    | releaseHoldByToken => exact .release (.inl rfl)
    | releaseHoldOnPaymentTimeout =>
        have early : ¬ Proceeds holdToken world .releaseHoldOnPaymentTimeout [] := by
          rintro (isRelease | ⟨_, _, _, _, _, inside, _⟩)
          · cases isRelease
          · cases inside
        cases parsed : Uuid.parse holdToken with
        | some token => exact .timeout parsed early
        | none =>
            have raises : ReleaseCall.releaseHoldOnPaymentTimeout.program holdToken
                = raise (.invalidUuid holdToken) := by
              simp only [ReleaseCall.program, Ticketing.releaseHoldOnPaymentTimeout, parsed]
            rw [raises]
            refine .raised ?_
            simp only [releaseOutcome, parsed]

/-- **Every state reached** without exceptions from outside is calm or held. -/
theorem calmOrHeld_of_reaches
    (reached : Reaches (engine ι) (fun _ action => action.fault = none)
      (System.start (.ofWorld world) fun agent => (calls agent).program holdToken) system) :
    CalmOrHeld calls holdToken world system := by
  refine reached.invariant (CalmOrHeld calls holdToken world) (.inl calm_start)
    fun {before after action} either unharmed stepped => ?_
  rcases either with calm | ⟨holder, held⟩
  · exact calm.step stepped unharmed
  · by_cases same : action.agent = holder
    · subst same
      exact held.step_holder (System.step_sound stepped) unharmed
    · exact .inr ⟨holder, held.step_other same stepped unharmed⟩

/-- A call without rows has returned, raised what a release raises, or not ended. -/
theorem Outside.program_cases {proceeds settled : Prop}
    {thread : Thread signature CheckoutError Unit}
    (outside : Outside holdToken world proceeds settled thread) :
    ((proceeds → settled) ∧ thread = ⟨done (), none⟩) ∨
      (∃ error, (releaseOutcome holdToken world).1 = .raised error ∧
        thread.program = raise error) ∨
      (∀ value, thread.program ≠ done value) ∧ ∀ error, thread.program ≠ raise error := by
  cases outside with
  | ended isSettled => exact .inl ⟨isSettled, rfl⟩
  | @raised error _ raises => exact .inr (.inl ⟨error, raises, rfl⟩)
  | timeout parsed early =>
      simp [Ticketing.releaseHoldOnPaymentTimeout, parsed, sql, send, call_bind]
  | _ =>
      refine .inr (.inr ⟨fun value isDone => ?_, fun error isRaised => ?_⟩)
      · cases isDone
      · cases isRaised

/-- When nobody owns a row, a call that has not ended can go on. -/
theorem Calm.moves (calm : Calm calls holdToken world system) {agent : ι} (input : Input)
    (running : ¬ Ended (system.thread agent)) :
    ∃ after, system.step (engine ι) ⟨agent, input, none⟩ = some after := by
  refine System.moves (fun stmt => SharedWorld.exec_ne_none (fun other _ => calm.nobody other) stmt)
    (fun value isDone => ?_) fun error isRaised => running (isRaised ▸ ⟨rfl, .inr ⟨error, rfl⟩⟩)
  rcases (calm.outside agent).program_cases with
    ⟨-, ended⟩ | ⟨error, -, raised⟩ | ⟨notDone, -⟩
  · exact running (ended ▸ ⟨rfl, .inl rfl⟩)
  · cases isDone.symm.trans raised
  · exact notDone value isDone

/-- What a calm state says of calls that have all ended. -/
theorem Calm.in_the_end (calm : Calm calls holdToken world system)
    (ended : ∀ agent, Ended (system.thread agent)) :
    ((∃ agent, GoesOn calls holdToken world system agent) →
        system.world.committed = (releaseOutcome holdToken world).2) ∧
      ((∀ agent, ¬ GoesOn calls holdToken world system agent) → system.world.committed = world) ∧
      ∀ agent error, (system.thread agent).program = .raise error →
        (releaseOutcome holdToken world).1 = .raised error := by
  refine ⟨fun ⟨agent, goesOn⟩ => ?_, fun none => ?_, fun agent error isRaised => ?_⟩
  · rcases (calm.outside agent).program_cases with
      ⟨isSettled, -⟩ | ⟨error, raises, -⟩ | ⟨notDone, notRaised⟩
    · exact (congrArg Prod.snd (isSettled goesOn)).symm
    · rcases calm.stores with start | ⟨released, -⟩
      · rw [start, unchanged_of_raised raises]
      · cases raises.symm.trans (congrArg Prod.fst released)
    · rcases (ended agent).2 with isDone | ⟨error, isRaised⟩
      · exact absurd isDone (notDone ())
      · exact absurd isRaised (notRaised error)
  · exact calm.stores.resolve_right fun ⟨_, agent, goesOn⟩ => none agent goesOn
  · rcases (calm.outside agent).program_cases with
      ⟨-, isDone⟩ | ⟨error', raises, isRaised'⟩ | ⟨-, notRaised⟩
    · rw [isDone] at isRaised
      cases isRaised
    · cases isRaised.symm.trans isRaised'
      exact raises
    · exact absurd isRaised (notRaised error)

/-- **Releases count once.**  Any number of releases and timeout tasks of one hold, interleaved
statement by statement: when all of them have ended, the stores are those of a single release if
one of them goes on to release the hold, and untouched otherwise; a call raises only what a single
release would raise.  Until then, one of them can go on. -/
theorem releases_count_once (calls : ι → ReleaseCall) (holdToken : String) (world : World)
    (inputs : ℕ → Input) {system : System signature ι (SharedWorld ι) CheckoutError Unit}
    (reached : Reaches (engine ι) (fun _ action => action.fault = none)
      (System.start (.ofWorld world) fun agent => (calls agent).program holdToken) system) :
    let serial := (releaseHoldByToken holdToken).run store none inputs none world
    ((∀ agent, Ended (system.thread agent)) →
      ((∃ agent, GoesOn calls holdToken world system agent) →
        system.world.committed = serial.2) ∧
      ((∀ agent, ¬ GoesOn calls holdToken world system agent) →
        system.world.committed = world) ∧
      ∀ agent error, (system.thread agent).program = .raise error → serial.1 = .raised error) ∧
    ((∃ agent, ¬ Ended (system.thread agent)) → ∃ action after, action.fault = none ∧
      system.step (engine ι) action = some after) := by
  intro serial
  rw [show serial = releaseOutcome holdToken world from
    releaseHoldByToken_outcome holdToken inputs world]
  rcases calmOrHeld_of_reaches reached with calm | ⟨holder, held⟩
  · refine ⟨calm.in_the_end, fun ⟨agent, running⟩ => ?_⟩
    obtain ⟨after, stepped⟩ := calm.moves (inputs 0) running
    exact ⟨_, after, rfl, stepped⟩
  · refine ⟨fun ended => ?_, fun _ => ?_⟩
    · obtain ⟨program, events, isAt, -⟩ := held.inside
      have inTransaction := (ended holder).1
      rw [isAt] at inTransaction
      cases inTransaction
    · obtain ⟨after, stepped⟩ := held.inside.moves (inputs 0)
        (SharedWorld.exec_ne_none held.others)
      exact ⟨_, after, rfl, stepped⟩

end Runs

/-! ### A release, a second one, and the task -/

namespace Sample

/-- Two releases and a timeout task. -/
def releasing : Fin 3 → ReleaseCall
  | 2 => .releaseHoldOnPaymentTimeout
  | _ => .releaseHoldByToken

/-- A step without an exception, one second after the epoch. -/
def turn {ι : Type} (agent : ι) : Action ι Input CheckoutError :=
  ⟨agent, .plain second (id 9), none⟩

/-- The task reads the ACTIVE hold, the first release locks it; the others find it released. -/
def turns : List (Fin 3) := [2, 0, 0, 2, 1, 0, 0, 0, 0, 0, 0, 1, 1, 2, 2, 2]

/-- A tier whose counter is smaller than its hold. -/
def drifted : World :=
  { world with db := { world.db with
      tiers := Table.empty.set (id 1) { event := id 0, quantityTotal := 10, quantityHeld := 1 } } }

end Sample

/-- The three calls end, and two tickets have been given back, not six. -/
theorem releases_count_once_sample :
    ∃ system : System signature (Fin 3) (SharedWorld (Fin 3)) CheckoutError Unit,
      (∀ agent, Ended (system.thread agent)) ∧
        (system.world.committed.db.tiers.get (Sample.id 1)).map TicketTier.quantityHeld
          = some 0 := by
  have executed : ((System.start (.ofWorld Sample.world) fun agent =>
      (Sample.releasing agent).program (Sample.id 7).str).runWhile (engine (Fin 3))
        (fun _ action => decide (action.fault = none)) (Sample.turns.map Sample.turn)).map
        (fun system => decide (∀ agent, Ended (system.thread agent))) = some true := by
    decide +kernel
  obtain ⟨system, ran, seen⟩ := Option.map_eq_some_iff.mp executed
  have ended := of_decide_eq_true seen
  refine ⟨system, ended, ?_⟩
  have reached := reaches_of_runWhile (fun _ action passes => of_decide_eq_true passes) ran
  rw [((releases_count_once Sample.releasing (Sample.id 7).str Sample.world
    (fun _ => .plain second (Sample.id 9)) reached).1 ended).1 ⟨0, .inl rfl⟩]
  decide +kernel

/-- **A release can raise.**  Where the counter of the tier is smaller than the hold, the database
refuses what is left of it. -/
theorem release_raises :
    ∃ system, Reaches (engine (Fin 1)) (fun _ action => action.fault = none)
        (System.start (.ofWorld Sample.drifted) fun _ =>
          ReleaseCall.releaseHoldByToken.program (Sample.id 7).str) system ∧
      Ended (system.thread 0) ∧ ∃ error, (system.thread 0).program = .raise error := by
  have executed : ((System.start (.ofWorld Sample.drifted) fun _ =>
      ReleaseCall.releaseHoldByToken.program (Sample.id 7).str).runWhile (engine (Fin 1))
        (fun _ action => decide (action.fault = none)) (List.replicate 6 (Sample.turn 0))).map
        (fun system => (decide (Ended (system.thread 0)), (system.thread 0).program.result))
      = some (true, none) := by
    decide +kernel
  obtain ⟨system, ran, seen⟩ := Option.map_eq_some_iff.mp executed
  simp only [Prod.mk.injEq, decide_eq_true_eq] at seen
  obtain ⟨ended, noResult⟩ := seen
  refine ⟨system, reaches_of_runWhile (fun _ action passes => of_decide_eq_true passes) ran, ended,
    ended.2.resolve_left fun isDone => ?_⟩
  rw [isDone] at noResult
  cases noResult

end Ticketing
