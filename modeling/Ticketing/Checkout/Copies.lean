import Ticketing.Checkout.Records

/-!
# The copies of a hold agree with its row

`register_hold` and `push_hold_expiry` write to Redis inside the transaction that inserts
the row, and Redis knows no transactions: the copies are there before the row is, and they
stay when it is rolled back.  They agree with the row all the same, whenever there is one.

## Main Definitions

* `Consistent` — committed rows, and rows being inserted, agree with their copies
* `Recording` — the invariant of whole runs

## Main Results

* `Consistent.exec`, `Consistent.commit` — the copies agree after every statement
* `holds_recorded` — rows and copies in any interleaving

## Design Notes

A copy is written by the client that is inserting the row, while it owns the row's lock.
So no two clients write copies of one token at a time, and a copy that a rollback has left
behind is overwritten before a later row of its token is committed.
-/

namespace Ticketing

open Transactional VersionedTable

/-! ## Rows and copies together -/

section Shared

variable {ι : Type} [DecidableEq ι]

/-- The committed rows agree with their copies, and so does every row that a client is
inserting with those that it has written; `opened` lists what the open transaction of each
client has executed. -/
structure Consistent (opened : ι → List (Event signature)) (world : SharedWorld ι) : Prop where
  published : ∀ token hold, world.db.holds.get token = some hold → world.redis.Agrees token hold
  inserting : ∀ agent token hold,
    (SharedWorld.own agent world).holds token = some ⟨none, some hold⟩ →
      (Entered (opened agent) token → world.redis.Registers token hold) ∧
      (Enqueued (opened agent) token → world.redis.Queues token hold)

variable {opened : ι → List (Event signature)} {agent : ι} {input : Input}
variable {world world' : SharedWorld ι}

omit [DecidableEq ι] in
/-- Redis is no part of the rows. -/
theorem SharedWorld.db_redis (world : SharedWorld ι) (redis : Redis) :
    SharedWorld.db { world with redis := redis } = world.db := rfl

theorem SharedWorld.own_redis (world : SharedWorld ι) (redis : Redis) (agent : ι) :
    own agent { world with redis := redis } = own agent world := rfl

namespace Consistent

/-- Nobody is working, and the copies agree with the rows. -/
theorem ofWorld {world : World}
    (agrees : ∀ token hold, world.db.holds.get token = some hold → world.redis.Agrees token hold) :
    Consistent opened (.ofWorld world : SharedWorld ι) where
  published token hold stored := by
    rw [SharedWorld.db_ofWorld] at stored
    exact agrees token hold stored
  inserting agent token hold owned := by
    rw [SharedWorld.own_ofWorld] at owned
    cases owned

/-- A transaction that has executed nothing has written no copies. -/
theorem close (consistent : Consistent opened world) (agent : ι) :
    Consistent (Function.update opened agent []) world where
  published := consistent.published
  inserting other token hold owned := by
    by_cases same : other = agent
    · subst same
      rw [Function.update_self]
      exact ⟨fun entered => absurd entered (not_entered_nil token),
        fun enqueued => absurd enqueued (not_enqueued_nil token)⟩
    · rw [Function.update_of_ne same]
      exact consistent.inserting other token hold owned

/-- A statement that neither adds copies nor starts the insertion of a row. -/
theorem quiet (consistent : Consistent opened world) {event : Event signature}
    (uncopied : event.stmt.enters = none ∧ event.stmt.enqueues = none)
    (db : world'.db = world.db) (shrinks : world.redis.Shrinks world'.redis)
    (others : ∀ other, other ≠ agent → SharedWorld.own other world' = SharedWorld.own other world)
    (self : ∀ token hold, (SharedWorld.own agent world').holds token = some ⟨none, some hold⟩ →
      ∃ before, (SharedWorld.own agent world).holds token = some ⟨none, some before⟩ ∧
        hold = { before with status := hold.status }) :
    Consistent (Function.update opened agent (opened agent ++ [event])) world' where
  published token hold stored := by
    rw [db] at stored
    have agrees := consistent.published token hold stored
    exact ⟨agrees.registers.shrink shrinks, agrees.queues.shrink shrinks⟩
  inserting other token hold owned := by
    by_cases same : other = agent
    · subst same
      obtain ⟨before, owned, columns⟩ := self token hold owned
      have known := consistent.inserting other token before owned
      simp only [Function.update_self, entered_append, enqueued_append, entered_singleton,
        enqueued_singleton, uncopied, reduceCtorEq, or_false]
      exact ⟨fun entered => ((known.1 entered).advance columns).shrink shrinks,
        fun enqueued => ((known.2 enqueued).advance columns).shrink shrinks⟩
    · rw [others other same] at owned
      rw [Function.update_of_ne same]
      have known := consistent.inserting other token hold owned
      exact ⟨fun entered => (known.1 entered).shrink shrinks,
        fun enqueued => (known.2 enqueued).shrink shrinks⟩

/-- A row is inserted: no copies of it have been written yet. -/
theorem insert (consistent : Consistent opened world) {event : Event signature} {token : Uuid}
    {hold : CheckoutHold} (uncopied : event.stmt.enters = none ∧ event.stmt.enqueues = none)
    (new : ¬ Entered (opened agent) token ∧ ¬ Enqueued (opened agent) token)
    (db : world'.db = world.db) (redis : world'.redis = world.redis)
    (others : ∀ other, other ≠ agent → SharedWorld.own other world' = SharedWorld.own other world)
    (self : (SharedWorld.own agent world').holds
      = Function.update (SharedWorld.own agent world).holds token (some ⟨none, some hold⟩)) :
    Consistent (Function.update opened agent (opened agent ++ [event])) world' where
  published other row stored := by
    rw [db] at stored
    rw [redis]
    exact consistent.published other row stored
  inserting other otherToken row owned := by
    rw [redis]
    by_cases same : other = agent
    · subst same
      simp only [Function.update_self, entered_append, enqueued_append, entered_singleton,
        enqueued_singleton, uncopied, reduceCtorEq, or_false]
      by_cases sameToken : otherToken = token
      · subst sameToken
        exact ⟨fun entered => absurd entered new.1, fun enqueued => absurd enqueued new.2⟩
      · rw [self, Function.update_of_ne sameToken] at owned
        exact consistent.inserting other otherToken row owned
    · rw [others other same] at owned
      rw [Function.update_of_ne same]
      exact consistent.inserting other otherToken row owned

/-- Whoever is inserting a row owns it: it is not committed, and nobody else inserts it. -/
theorem other_token {token other : Uuid} {hold row : CheckoutHold} {client : ι}
    (owned : (SharedWorld.own agent world).holds token = some ⟨none, some hold⟩)
    (found : world.db.holds.get other = some row ∨
      client ≠ agent ∧ (SharedWorld.own client world).holds other = some ⟨none, some row⟩) :
    other.str ≠ token.str := by
  intro text
  obtain rfl := Uuid.str_injective text
  rcases found with stored | ⟨different, owned'⟩
  · have absent : world.db.holds.get other = none := get_committed_of_own owned
    rw [absent] at stored
    cases stored
  · have mine : own agent world.holds other ≠ none := by
      rw [show own agent world.holds other = _ from owned]
      exact Option.some_ne_none _
    have free : (SharedWorld.own client world).holds other = none := own_eq_none mine different
    rw [free] at owned'
    cases owned'

/-- The registry entry of a row being inserted. -/
theorem enter (consistent : Consistent opened world) {event : Event signature} {token : Uuid}
    {hold : CheckoutHold} {entry : HoldEntry} {dies : Time}
    (stmt : event.stmt.enters = some token.str ∧ event.stmt.enqueues = none)
    (owned : (SharedWorld.own agent world).holds token = some ⟨none, some hold⟩)
    (describes : entry.Describes hold) (db : world'.db = world.db)
    (owns : ∀ other, SharedWorld.own other world' = SharedWorld.own other world)
    (registry : world'.redis.registry
      = Function.update world.redis.registry token.str (some (entry, dies)))
    (queue : world'.redis.expiryZset = world.redis.expiryZset) :
    Consistent (Function.update opened agent (opened agent ++ [event])) world' where
  published other row stored := by
    rw [db] at stored
    have agrees := consistent.published other row stored
    have different := @other_token _ _ agent _ _ _ _ _ agent owned (.inl stored)
    refine ⟨fun entry dies found => ?_, fun score queued => agrees.queues score (queue ▸ queued)⟩
    rw [registry, Function.update_of_ne different] at found
    exact agrees.registers entry dies found
  inserting other otherToken row owned' := by
    rw [owns] at owned'
    have known := consistent.inserting other otherToken row owned'
    have queues (enqueued : Enqueued (opened other) otherToken) :
        world'.redis.Queues otherToken row :=
      fun score queued => known.2 enqueued score (queue ▸ queued)
    have registers (different : otherToken.str ≠ token.str)
        (entered : Entered (opened other) otherToken) : world'.redis.Registers otherToken row := by
      intro entry' dies' found
      rw [registry, Function.update_of_ne different] at found
      exact known.1 entered entry' dies' found
    by_cases same : other = agent
    · subst same
      simp only [Function.update_self, entered_append, enqueued_append, entered_singleton,
        enqueued_singleton, stmt, reduceCtorEq, or_false]
      refine ⟨fun entered => ?_, queues⟩
      by_cases sameToken : otherToken = token
      · subst sameToken
        obtain rfl : hold = row :=
          Option.some.inj (congrArg LockedRow.written (Option.some.inj (owned.symm.trans owned')))
        intro entry' dies' found
        rw [registry, Function.update_self] at found
        obtain ⟨rfl, -⟩ := Prod.mk.inj (Option.some.inj found)
        exact describes
      · have different : otherToken.str ≠ token.str :=
          fun text => sameToken (Uuid.str_injective text)
        exact registers different
          (entered.resolve_right fun text => different (Option.some.inj text).symm)
    · rw [Function.update_of_ne same]
      exact ⟨registers (other_token owned (.inr ⟨same, owned'⟩)), queues⟩

/-- The place in the queue of a row being inserted. -/
theorem enqueue (consistent : Consistent opened world) {event : Event signature} {token : Uuid}
    {hold : CheckoutHold}
    (stmt : event.stmt.enters = none ∧ event.stmt.enqueues = some token.str)
    (owned : (SharedWorld.own agent world).holds token = some ⟨none, some hold⟩)
    (db : world'.db = world.db)
    (owns : ∀ other, SharedWorld.own other world' = SharedWorld.own other world)
    (registry : world'.redis.registry = world.redis.registry)
    (queue : world'.redis.expiryZset = world.redis.expiryZset.add token.str hold.expiresAt) :
    Consistent (Function.update opened agent (opened agent ++ [event])) world' where
  published other row stored := by
    rw [db] at stored
    have agrees := consistent.published other row stored
    have different := @other_token _ _ agent _ _ _ _ _ agent owned (.inl stored)
    refine ⟨fun entry dies found => agrees.registers entry dies (registry ▸ found),
      fun score queued => ?_⟩
    rw [queue, SortedSet.mem_add, if_neg different] at queued
    exact agrees.queues score queued
  inserting other otherToken row owned' := by
    rw [owns] at owned'
    have known := consistent.inserting other otherToken row owned'
    have registers (entered : Entered (opened other) otherToken) :
        world'.redis.Registers otherToken row :=
      fun entry dies found => known.1 entered entry dies (registry ▸ found)
    have queues (different : otherToken.str ≠ token.str)
        (enqueued : Enqueued (opened other) otherToken) : world'.redis.Queues otherToken row := by
      intro score queued
      rw [queue, SortedSet.mem_add, if_neg different] at queued
      exact known.2 enqueued score queued
    by_cases same : other = agent
    · subst same
      simp only [Function.update_self, entered_append, enqueued_append, entered_singleton,
        enqueued_singleton, stmt, reduceCtorEq, or_false]
      refine ⟨registers, fun enqueued => ?_⟩
      by_cases sameToken : otherToken = token
      · subst sameToken
        obtain rfl : hold = row :=
          Option.some.inj (congrArg LockedRow.written (Option.some.inj (owned.symm.trans owned')))
        intro score queued
        rwa [queue, SortedSet.mem_add, if_pos rfl] at queued
      · have different : otherToken.str ≠ token.str :=
          fun text => sameToken (Uuid.str_injective text)
        exact queues different
          (enqueued.resolve_right fun text => different (Option.some.inj text).symm)
    · rw [Function.update_of_ne same]
      exact ⟨registers, queues (other_token owned (.inr ⟨same, owned'⟩))⟩

/-- **A statement keeps the copies in agreement.** -/
theorem exec (consistent : Consistent opened world) {stmt : Stmt} {answer : stmt.Res}
    (result : world.exec agent input stmt = some (.ok (answer, world')))
    (copying : Copying (opened agent) stmt (SharedWorld.own agent world)) :
    Consistent (Function.update opened agent (opened agent ++ [⟨stmt, answer⟩])) world' := by
  have touches := SharedWorld.touches_of_exec result
  have others (other : ι) (different : other ≠ agent) := touches.own_of_ne different
  have moved := moves_of_exec result (Finds.at_any world.db stmt)
  cases stmt with
  | env stmt =>
      cases result
      exact consistent.quiet ⟨rfl, rfl⟩ rfl (.refl _) others fun token hold owned =>
        ⟨hold, owned, rfl⟩
  | redis stmt =>
      cases result
      have same (token : Uuid) (hold : CheckoutHold)
          (owned : (SharedWorld.own agent world).holds token = some ⟨none, some hold⟩) :
          ∃ before, (SharedWorld.own agent world).holds token = some ⟨none, some before⟩ ∧
            hold = { before with status := hold.status } := ⟨hold, owned, rfl⟩
      cases stmt with
      | setHold text entry ttl =>
          obtain ⟨token, hold, rfl, owned, describes⟩ := copying
          exact consistent.enter ⟨rfl, rfl⟩ owned describes (SharedWorld.db_redis world _)
            (SharedWorld.own_redis world _) (Redis.registry_setHold world.redis input ..)
            (Redis.queue_setHold world.redis input ..)
      | zadd text score =>
          obtain ⟨token, hold, rfl, owned, rfl⟩ := copying
          exact consistent.enqueue ⟨rfl, rfl⟩ owned (SharedWorld.db_redis world _)
            (SharedWorld.own_redis world _) (Redis.registry_zadd world.redis input ..)
            (Redis.queue_zadd world.redis input ..)
      | deleteHold text =>
          exact consistent.quiet ⟨rfl, rfl⟩ (SharedWorld.db_redis world _)
            (Redis.shrinks_exec _ rfl) others same
      | deleteAvailability tierId =>
          exact consistent.quiet ⟨rfl, rfl⟩ (SharedWorld.db_redis world _)
            (Redis.shrinks_exec _ rfl) others same
      | zrem text =>
          exact consistent.quiet ⟨rfl, rfl⟩ (SharedWorld.db_redis world _)
            (Redis.shrinks_exec _ rfl) others same
      | zpop now =>
          exact consistent.quiet ⟨rfl, rfl⟩ (SharedWorld.db_redis world _)
            (Redis.shrinks_exec _ rfl) others same
  | sql stmt =>
      have redis : world'.redis = world.redis := (SharedWorld.execSql_view result).2
      have shrinks : world.redis.Shrinks world'.redis := by
        rw [redis]
        exact .refl _
      have kept (uncopied : (Stmt.sql stmt).enters = none ∧ (Stmt.sql stmt).enqueues = none)
          (holds : (SharedWorld.own agent world').holds = (SharedWorld.own agent world).holds) :
          Consistent (Function.update opened agent (opened agent ++ [⟨.sql stmt, answer⟩]))
            world' :=
        consistent.quiet uncopied touches.db_eq shrinks others fun token hold owned =>
          ⟨hold, holds ▸ owned, rfl⟩
      cases stmt with
      | selectTierForUpdate id =>
          rcases moved with ⟨-, same⟩ | ⟨tier, locked, -, -, -, same⟩
          · exact kept ⟨rfl, rfl⟩ (by rw [same])
          · exact kept ⟨rfl, rfl⟩ (by rw [same])
      | selectTier id => exact kept ⟨rfl, rfl⟩ (congrArg Own.holds moved)
      | updateQuantityHeld id quantityHeld =>
          rcases moved with ⟨same, -⟩ | ⟨tier, locked, -, -, -, -, same⟩
          · exact kept ⟨rfl, rfl⟩ (by rw [same])
          · exact kept ⟨rfl, rfl⟩ (by rw [same])
      | countActiveHolds user event => exact kept ⟨rfl, rfl⟩ (congrArg Own.holds moved)
      | selectHold token => exact kept ⟨rfl, rfl⟩ (congrArg Own.holds moved)
      | selectActiveHolds tokens => exact kept ⟨rfl, rfl⟩ (congrArg Own.holds moved)
      | insertHold token user tierId quantity expiresAt =>
          obtain ⟨-, rfl, same⟩ := moved
          exact consistent.insert ⟨rfl, rfl⟩ copying touches.db_eq redis others
            (congrArg Own.holds same)
      | selectActiveHoldForUpdate token =>
          rcases moved with ⟨-, same⟩ | ⟨found, locked, -, -, sees, -, same⟩
          · exact kept ⟨rfl, rfl⟩ (by rw [same])
          have holds : (SharedWorld.own agent world').holds
              = Function.update (SharedWorld.own agent world).holds token (some locked) :=
            congrArg Own.holds same
          refine consistent.quiet ⟨rfl, rfl⟩ touches.db_eq shrinks others ?_
          intro other hold owned
          rw [holds] at owned
          by_cases sameToken : other = token
          · subst sameToken
            rw [Function.update_self] at owned
            obtain rfl := Option.some.inj owned
            rcases sees with held | ⟨-, unwritten⟩
            · exact ⟨hold, held, rfl⟩
            · cases unwritten
          · rw [Function.update_of_ne sameToken] at owned
            exact ⟨hold, owned, rfl⟩
      | saveStatus token status =>
          obtain ⟨found, ⟨committed, written⟩, sees, current, -, same⟩ := moved
          have holds : (SharedWorld.own agent world').holds
              = Function.update (SharedWorld.own agent world).holds token
                  (some ⟨committed, some { found with status }⟩) := congrArg Own.holds same
          refine consistent.quiet ⟨rfl, rfl⟩ touches.db_eq shrinks others ?_
          intro other hold owned
          rw [holds] at owned
          by_cases sameToken : other = token
          · subst sameToken
            rw [Function.update_self] at owned
            obtain ⟨rfl, saved⟩ := LockedRow.mk.inj (Option.some.inj owned)
            obtain rfl := Option.some.inj saved
            rw [LockedRow.current, Option.or_none] at current
            obtain rfl : written = some found := current
            rcases sees with held | ⟨-, unwritten⟩
            · exact ⟨found, held, rfl⟩
            · cases unwritten
          · rw [Function.update_of_ne sameToken] at owned
            exact ⟨hold, owned, rfl⟩

/-- **A commit publishes rows that agree with their copies.** -/
theorem commit (consistent : Consistent opened world)
    (recorded : Recorded (opened agent) (SharedWorld.own agent world)) :
    Consistent (Function.update opened agent []) (world.commit agent) := by
  refine close ⟨fun token hold stored => ?_, fun other token hold owned => ?_⟩ agent
  · have visible : world.holds.read agent token = some hold := by
      rwa [SharedWorld.db_commit] at stored
    change world.redis.Agrees token hold
    cases owned : own agent world.holds token with
    | none =>
        rw [read_of_not_own owned] at visible
        exact consistent.published token hold visible
    | some locked =>
        rw [read_of_own owned] at visible
        obtain ⟨committed, written⟩ := locked
        cases written with
        | none =>
            refine consistent.published token hold ?_
            exact (get_committed_of_own owned).trans visible
        | some version =>
            obtain rfl : version = hold := Option.some.inj visible
            rcases recorded.holds token _ version owned rfl with
              ⟨new, entered, enqueued⟩ | ⟨before, stored, advances⟩
            · obtain rfl : committed = none := new
              have known := consistent.inserting agent token version owned
              exact ⟨known.1 entered, known.2 enqueued⟩
            · have stored : world.db.holds.get token = some before :=
                (get_committed_of_own owned).trans stored
              exact (consistent.published token before stored).advance advances
  · by_cases same : other = agent
    · subst same
      rw [show SharedWorld.own other (world.commit other) = .nothing from
        (isolation ι).own_commit_self other world] at owned
      cases owned
    · rw [show SharedWorld.own other (world.commit agent) = SharedWorld.own other world from
        (isolation ι).own_commit_of_ne world same] at owned
      exact consistent.inserting other token hold owned

theorem rollback (consistent : Consistent opened world) (agent : ι) :
    Consistent (Function.update opened agent []) (world.rollback agent) := by
  refine close ⟨fun token hold stored => ?_, fun other token hold owned => ?_⟩ agent
  · rw [show (world.rollback agent).db = world.db from
      (isolation ι).shared_rollback agent world] at stored
    exact consistent.published token hold stored
  · by_cases same : other = agent
    · subst same
      rw [show SharedWorld.own other (world.rollback other) = .nothing from
        (isolation ι).own_rollback_self other world] at owned
      cases owned
    · rw [show SharedWorld.own other (world.rollback agent) = SharedWorld.own other world from
        (isolation ι).own_rollback_of_ne world same] at owned
      exact consistent.inserting other token hold owned

end Consistent

/-- **A commit changes counters and statuses, and adds holds.** -/
theorem Recorded.evolves {events : List (Event signature)}
    (recorded : Recorded events (SharedWorld.own agent world)) :
    world.db.Evolves (world.commit agent).db := by
  rw [SharedWorld.db_commit]
  refine ⟨fun id => ?_, fun token hold stored => ?_⟩
  · change (world.tiers.read agent id).map _ = _
    cases owned : own agent world.tiers id with
    | none =>
        rw [read_of_not_own owned]
        rfl
    | some locked =>
        rw [read_of_own owned]
        have committed : world.db.tiers.get id = locked.committed := get_committed_of_own owned
        rw [committed]
        obtain ⟨committed, written⟩ := locked
        cases written with
        | none => rfl
        | some version => exact (recorded.tiers id _ version owned rfl).symm
  · change ∃ hold', world.holds.read agent token = some hold' ∧ _
    cases owned : own agent world.holds token with
    | none =>
        rw [read_of_not_own owned]
        exact ⟨hold, stored, .refl hold⟩
    | some locked =>
        rw [read_of_own owned]
        have committed : locked.committed = some hold :=
          (get_committed_of_own owned).symm.trans stored
        obtain ⟨_, written⟩ := locked
        obtain rfl := committed
        cases written with
        | none => exact ⟨hold, rfl, .refl hold⟩
        | some version =>
            rcases recorded.holds token _ version owned rfl with
              ⟨new, -⟩ | ⟨before, same, advances⟩
            · cases new
            · obtain rfl := Option.some.inj same
              exact ⟨version, rfl, advances⟩

end Shared

/-! ## Runs -/

section Runs

variable {ι : Type} [DecidableEq ι] {agent : ι}
variable {system system' : System signature ι (SharedWorld ι) CheckoutError Unit}
variable {action : Action ι Input CheckoutError}

/-- What the open transaction of each client has executed. -/
def opened (system : System signature ι (SharedWorld ι) CheckoutError Unit) (agent : ι) :
    List (Event signature) :=
  (system.thread agent).transaction.getD []

/-- Every client keeps the contract, and the rows agree with their copies. -/
structure Recording (system : System signature ι (SharedWorld ι) CheckoutError Unit) : Prop where
  safe : AllSafe (isolation ι) recording system
  consistent : Consistent (opened system) system.world

/-- What the others have executed does not change. -/
theorem opened_setThread {program : Checkout Unit} {transaction : Option (List (Event signature))}
    {world : SharedWorld ι} {log : List (ι × Event signature)} :
    opened
        { system.setThread agent ⟨program, transaction⟩ with world := world, log := log }
      = Function.update (opened system) agent (transaction.getD []) := by
  funext other
  by_cases same : other = agent
  · subst same
    simp [opened, System.setThread]
  · simp [opened, System.setThread, same]

theorem localAt_recording : LocalAt (isolation ι) recording system action :=
  fun _ _ result => moves_of_exec result (Finds.at_any _ _)

/-- **One step.** -/
theorem Recording.step (recorded : Recording system)
    (stepped : system.step (engine ι) action = some system') :
    Recording system' ∧ system.world.db.Evolves system'.world.db := by
  have step := System.step_sound stepped
  have safe' := step.safe recorded.safe localAt_recording
  have own := recorded.safe action.agent
  have consistent := recorded.consistent
  suffices both : Consistent (opened system') system'.world ∧
      system.world.db.Evolves system'.world.db from ⟨⟨safe', both.1⟩, both.2⟩
  cases step with
  | fault error located running =>
      refine ⟨?_, .refl _⟩
      have same : (opened system) action.agent = _ :=
        congrArg (fun thread => Option.getD (Thread.transaction thread) []) located
      rw [show opened (system.setThread action.agent _) = _ from opened_setThread,
        ← same, Function.update_eq_self]
      exact consistent
  | rollback located =>
      refine ⟨?_, ?_⟩
      · rw [opened_setThread]
        exact consistent.rollback action.agent
      · rw [show SharedWorld.db ((engine ι).rollback action.agent system.world) = system.world.db
          from (isolation ι).shared_rollback action.agent system.world]
        exact .refl _
  | begin located =>
      refine ⟨?_, .refl _⟩
      rw [show opened (system.setThread action.agent _) = _ from opened_setThread]
      exact consistent.close action.agent
  | commit located unharmed =>
      rw [located] at own
      have published := own.2.1
      have same : (opened system) action.agent = _ :=
        congrArg (fun thread => Option.getD (Thread.transaction thread) []) located
      rw [← same] at published
      refine ⟨?_, Recorded.evolves published⟩
      rw [opened_setThread]
      exact consistent.commit published
  | @auto stmt next answer world located unharmed result =>
      rw [located] at own
      have moved := moves_of_exec result (Finds.at_any system.world.db stmt)
      have nothing : (opened system) action.agent = [] :=
        congrArg (fun thread => Option.getD (Thread.transaction thread) []) located
      have executed := consistent.exec result (nothing ▸ own.2.1)
      have published := (own.2.2 answer _ moved).1
      refine ⟨?_, ?_⟩
      · rw [opened_setThread]
        have committed : Consistent _ (world.commit action.agent) := executed.commit (by
          rw [Function.update_self, nothing]
          exact published)
        rwa [Function.update_idem] at committed
      · have same : world.db = system.world.db := (SharedWorld.touches_of_exec result).db_eq
        rw [← same]
        exact Recorded.evolves published
  | @stmt stmt next events answer world located unharmed result =>
      rw [located] at own
      have some : (opened system) action.agent = events :=
        congrArg (fun thread => Option.getD (Thread.transaction thread) []) located
      have executed := consistent.exec result (some ▸ own.2.1)
      refine ⟨?_, ?_⟩
      · rw [opened_setThread]
        rwa [some] at executed
      · rw [show SharedWorld.db world = system.world.db from
          (SharedWorld.touches_of_exec result).db_eq]
        exact .refl _

/-- **A hold is recorded once, and its copies agree with it.**  In any interleaving of calls,
exceptions included, no tier and no hold ever goes; a tier changes in its counter alone, and
a hold in its status, which a release makes RELEASED where it finds it ACTIVE and a sweep
makes EXPIRED for good.  Whatever Redis has under the token of a committed hold, in the
registry and in the expiry queue, says what the row says. -/
theorem holds_recorded (world : World) (jobs : ι → Job)
    (agrees : ∀ token hold, world.db.holds.get token = some hold → world.redis.Agrees token hold)
    (reached : Reaches (engine ι) Unrestricted
      (.start (.ofWorld world) fun agent => (jobs agent).program) system)
    (later : Reaches (engine ι) Unrestricted system system') :
    system.world.db.Evolves system'.world.db ∧
      ∀ token hold, system'.world.db.holds.get token = some hold →
        system'.world.redis.Agrees token hold := by
  have initially : Recording
      (System.start (.ofWorld world : SharedWorld ι) fun agent => (jobs agent).program) :=
    ⟨.start (fun agent => SharedWorld.own_ofWorld agent world) fun agent => (jobs agent).recording,
      .ofWorld agrees⟩
  have recording : Recording system := reached.invariant Recording initially
    fun before _ stepped => (before.step stepped).1
  obtain ⟨recording', evolves⟩ := later.invariant
    (fun after => Recording after ∧ system.world.db.Evolves after.world.db)
    ⟨recording, .refl _⟩ (by
      intro between after action before _ stepped
      have step := before.1.step stepped
      exact ⟨step.1, before.2.trans step.2⟩)
  exact ⟨evolves, recording'.consistent.published⟩

end Runs

namespace Sample

/-- Two users ask for tickets of one tier. -/
def buyers : Bool → Job
  | false => .request (.createHold (id 6) (id 1).str 3)
  | true => .request (.createHold (id 5) (id 1).str 1)

/-- The first request is killed in front of its commit, and the second one draws the
same token. -/
def sameToken : List (Action Bool Input CheckoutError) :=
  List.replicate 11 (act false (id 8)) ++ [⟨false, .plain 0 (id 8), some .connection⟩] ++
    List.replicate 1 (act false (id 8)) ++ List.replicate 12 (act true (id 8))

end Sample

theorem holds_recorded_sample :
    ∃ system : System signature Bool (SharedWorld Bool) CheckoutError Unit,
      ∃ entry dies hold, system.world.redis.registry (Sample.id 8).str = some (entry, dies) ∧
        system.world.db.holds.get (Sample.id 8) = some hold ∧ hold.quantity = 1 ∧
        entry.Describes hold := by
  have executed : ((System.start (.ofWorld Sample.world) fun agent =>
      (Sample.buyers agent).program).run (engine Bool) Sample.sameToken).map (fun system =>
        ((system.world.redis.registry (Sample.id 8).str).isSome,
          (system.world.db.holds.get (Sample.id 8)).map CheckoutHold.quantity))
      = some (true, some 1) := by
    decide +kernel
  obtain ⟨system, ran, seen⟩ := Option.map_eq_some_iff.mp executed
  obtain ⟨registered, stored⟩ := Prod.mk.inj seen
  obtain ⟨⟨entry, dies⟩, found⟩ := Option.isSome_iff_exists.mp registered
  obtain ⟨hold, present, quantity⟩ := Option.map_eq_some_iff.mp stored
  have uncopied (token : Uuid) (row : CheckoutHold)
      (_ : Sample.world.db.holds.get token = some row) : Sample.world.redis.Agrees token row := by
    constructor
    · intro entry dies found
      cases found
    · intro score queued
      cases queued
  have kept := holds_recorded Sample.world Sample.buyers uncopied .refl (reaches_of_run ran)
  exact ⟨system, entry, dies, hold, found, present, quantity,
    (kept.2 _ hold present).registers entry dies found⟩

end Ticketing
