import Ticketing.Checkout.Services
import Ticketing.Transactional.Versioned
import Ticketing.Transactional.Interleaving
import Ticketing.Transactional.Alone

/-!
# The checkout database with many clients

What each statement of the checkout does when any number of clients are
connected, under READ COMMITTED with row locks.

## Main Definitions

* `SharedWorld` — versioned tables, and the Redis structures
* `SharedWorld.exec`, `engine` — one statement of one client
* `Own`, `isolation` — what a client owns, and what everybody sees
* `Moves` — what a statement can do to what its client owns

## Main Results

* `SharedWorld.exec_view` — a statement does to what its client reads exactly
  what it does to the stores of a single client
* `moves_of_exec` — every executed statement is one of the `Moves`

## Design Notes

A plain query reads committed rows and the client's own writes.  `SELECT FOR
UPDATE`, `UPDATE` and `INSERT` wait while another client has the row locked, and
then see the version it has left.  Redis knows no transactions: its statements
take effect at once.  The share lock that a foreign key takes on the referenced
row is left out: the only `INSERT` of the checkout runs under its tier's lock.
-/

namespace Ticketing

open Transactional

/-- The stores as any number of clients share them. -/
structure SharedWorld (ι : Type) where
  tiers : VersionedTable Uuid ι TicketTier
  holds : VersionedTable Uuid ι CheckoutHold
  redis : Redis

namespace SharedWorld

variable {ι : Type}

/-- A world nobody is working on. -/
def ofWorld (world : World) : SharedWorld ι :=
  ⟨.ofTable world.db.tiers, .ofTable world.db.holds, world.redis⟩

/-- The committed rows. -/
def db (world : SharedWorld ι) : Database := ⟨world.tiers.committed, world.holds.committed⟩

@[simp] theorem db_ofWorld (world : World) : (ofWorld world : SharedWorld ι).db = world.db := by
  simp [db, ofWorld]

variable [DecidableEq ι]

/-- The stores as `agent` reads them. -/
def view (agent : ι) (world : SharedWorld ι) : World :=
  ⟨⟨world.tiers.view agent, world.holds.view agent⟩, world.redis⟩

/-- One SQL statement of one client; `none` while it has to wait. -/
def execSql (agent : ι) (input : Input) : (stmt : SqlStmt) → SharedWorld ι →
    Option (Except CheckoutError (stmt.Res × SharedWorld ι))
  | .selectTierForUpdate id, world =>
      (world.tiers.lockWhere agent id fun _ => true).map fun result =>
        .ok (result.1, { world with tiers := result.2 })
  | .selectTier id, world => some (.ok (world.tiers.read agent id, world))
  | .updateQuantityHeld id quantityHeld, world =>
      match world.tiers.read agent id with
      | none => some (.ok ((), world))
      | some tier =>
          (world.tiers.put agent id
            (some { tier with quantityHeld := quantityHeld.value.toNat })).map fun tiers =>
              if quantityHeld.value < 0 then .error .integrity
              else .ok ((), { world with tiers := tiers })
  | .countActiveHolds user event, world =>
      some (.ok ((world.view agent).db.activeHoldsCount user event, world))
  | .selectHold token, world => some (.ok (world.holds.read agent token, world))
  | .selectActiveHoldForUpdate token, world =>
      (world.holds.lockWhere agent token (·.status = .active)).map fun result =>
        .ok (result.1, { world with holds := result.2 })
  | .selectActiveHolds tokens, world =>
      some (.ok (input.order ((world.view agent).db.activeHolds tokens), world))
  | .insertHold token user tierId quantity expiresAt, world =>
      if quantity < 0 ∨ world.tiers.read agent tierId = none ∨
          (world.holds.read agent token).isSome then some (.error .integrity)
      else
        let hold : CheckoutHold := { user, tierId, quantity := quantity.toNat, expiresAt }
        (world.holds.put agent token (some hold)).map fun holds =>
          .ok (hold, { world with holds := holds })
  | .saveStatus token status, world =>
      match world.holds.read agent token with
      | none => some (.error .noRowsAffected)
      | some hold =>
          (world.holds.put agent token (some { hold with status })).map fun holds =>
            .ok ((), { world with holds := holds })

/-- One statement of one client; `none` while it has to wait. -/
def exec (agent : ι) (input : Input) : (stmt : Stmt) → SharedWorld ι →
    Option (Except CheckoutError (stmt.Res × SharedWorld ι))
  | .env stmt, world => some (.ok (stmt.answer input, world))
  | .sql stmt, world => world.execSql agent input stmt
  | .redis stmt, world =>
      let result := world.redis.exec input stmt
      some (.ok (result.1, { world with redis := result.2 }))

def commit (agent : ι) (world : SharedWorld ι) : SharedWorld ι :=
  { world with tiers := world.tiers.commit agent, holds := world.holds.commit agent }

def rollback (agent : ι) (world : SharedWorld ι) : SharedWorld ι :=
  { world with tiers := world.tiers.rollback agent, holds := world.holds.rollback agent }

end SharedWorld

/-- The stores of the checkout, shared by the clients `ι`. -/
def engine (ι : Type) [DecidableEq ι] : Engine signature ι Input (SharedWorld ι) CheckoutError where
  exec := SharedWorld.exec
  commit := SharedWorld.commit
  rollback := SharedWorld.rollback

section Exec

variable {ι : Type} [DecidableEq ι] {agent : ι} {input : Input} {world world' : SharedWorld ι}

/-! ## A statement that succeeds -/

/-- What an SQL statement has done, where it succeeds. -/
inductive Executed (agent : ι) (input : Input) (world : SharedWorld ι) :
    (stmt : SqlStmt) → stmt.Res → SharedWorld ι → Prop
  | selectTierForUpdate {id : Uuid} {found : Option TicketTier}
      {tiers : VersionedTable Uuid ι TicketTier}
      (locking : world.tiers.lockWhere agent id (fun _ => true) = some (found, tiers)) :
      Executed agent input world (.selectTierForUpdate id) found { world with tiers := tiers }
  | selectTier {id : Uuid} :
      Executed agent input world (.selectTier id) (world.tiers.read agent id) world
  | missingTier {id : Uuid} {quantityHeld : HeldExpr}
      (missing : world.tiers.read agent id = none) :
      Executed agent input world (.updateQuantityHeld id quantityHeld) () world
  | updateQuantityHeld {id : Uuid} {quantityHeld : HeldExpr} {tier : TicketTier}
      {tiers : VersionedTable Uuid ι TicketTier}
      (visible : world.tiers.read agent id = some tier) (notNegative : 0 ≤ quantityHeld.value)
      (granted : world.tiers.put agent id
        (some { tier with quantityHeld := quantityHeld.value.toNat }) = some tiers) :
      Executed agent input world (.updateQuantityHeld id quantityHeld) ()
        { world with tiers := tiers }
  | countActiveHolds {user event : Uuid} :
      Executed agent input world (.countActiveHolds user event)
        ((world.view agent).db.activeHoldsCount user event) world
  | selectHold {token : Uuid} :
      Executed agent input world (.selectHold token) (world.holds.read agent token) world
  | selectActiveHoldForUpdate {token : Uuid} {found : Option CheckoutHold}
      {holds : VersionedTable Uuid ι CheckoutHold}
      (locking : world.holds.lockWhere agent token (·.status = .active) = some (found, holds)) :
      Executed agent input world (.selectActiveHoldForUpdate token) found
        { world with holds := holds }
  | selectActiveHolds {tokens : List Uuid} :
      Executed agent input world (.selectActiveHolds tokens)
        (input.order ((world.view agent).db.activeHolds tokens)) world
  | insertHold {token user tierId : Uuid} {quantity : ℤ} {expiresAt : Time}
      {holds : VersionedTable Uuid ι CheckoutHold}
      (accepted : ¬ (quantity < 0 ∨ world.tiers.read agent tierId = none ∨
        (world.holds.read agent token).isSome))
      (granted : world.holds.put agent token
        (some { user, tierId, quantity := quantity.toNat, expiresAt }) = some holds) :
      Executed agent input world (.insertHold token user tierId quantity expiresAt)
        { user, tierId, quantity := quantity.toNat, expiresAt } { world with holds := holds }
  | saveStatus {token : Uuid} {status : HoldStatus} {hold : CheckoutHold}
      {holds : VersionedTable Uuid ι CheckoutHold}
      (visible : world.holds.read agent token = some hold)
      (granted : world.holds.put agent token (some { hold with status }) = some holds) :
      Executed agent input world (.saveStatus token status) () { world with holds := holds }

/-- **Every SQL statement that succeeds is one of them.** -/
theorem executed_of_execSql {stmt : SqlStmt} {answer : stmt.Res}
    (result : world.execSql agent input stmt = some (.ok (answer, world'))) :
    Executed agent input world stmt answer world' := by
  cases stmt with
  | selectTierForUpdate id =>
      simp only [SharedWorld.execSql, Option.map_eq_some_iff, Except.ok.injEq,
        Prod.mk.injEq] at result
      obtain ⟨⟨found, tiers⟩, locking, rfl, rfl⟩ := result
      exact .selectTierForUpdate locking
  | selectTier id =>
      cases result
      exact .selectTier
  | updateQuantityHeld id quantityHeld =>
      simp only [SharedWorld.execSql] at result
      cases visible : world.tiers.read agent id with
      | none =>
          rw [visible] at result
          cases result
          exact .missingTier visible
      | some tier =>
          rw [visible] at result
          simp only [Option.map_eq_some_iff] at result
          obtain ⟨tiers, granted, outcome⟩ := result
          by_cases negative : quantityHeld.value < 0
          · simp [negative] at outcome
          · rw [if_neg negative] at outcome
            cases outcome
            exact .updateQuantityHeld visible (not_lt.mp negative) granted
  | countActiveHolds user event =>
      cases result
      exact .countActiveHolds
  | selectHold token =>
      cases result
      exact .selectHold
  | selectActiveHoldForUpdate token =>
      simp only [SharedWorld.execSql, Option.map_eq_some_iff, Except.ok.injEq,
        Prod.mk.injEq] at result
      obtain ⟨⟨found, holds⟩, locking, rfl, rfl⟩ := result
      exact .selectActiveHoldForUpdate locking
  | selectActiveHolds tokens =>
      cases result
      exact .selectActiveHolds
  | insertHold token user tierId quantity expiresAt =>
      simp only [SharedWorld.execSql] at result
      split at result
      · cases result
      · rename_i accepted
        simp only [Option.map_eq_some_iff, Except.ok.injEq, Prod.mk.injEq] at result
        obtain ⟨holds, granted, rfl, rfl⟩ := result
        exact .insertHold accepted granted
  | saveStatus token status =>
      simp only [SharedWorld.execSql] at result
      cases visible : world.holds.read agent token with
      | none => simp [visible] at result
      | some hold =>
          rw [visible] at result
          simp only [Option.map_eq_some_iff, Except.ok.injEq, Prod.mk.injEq] at result
          obtain ⟨holds, granted, -, rfl⟩ := result
          exact .saveStatus visible granted

/-! ## A statement and its client's view -/

theorem SharedWorld.execSql_view {stmt : SqlStmt} {answer : stmt.Res}
    (result : world.execSql agent input stmt = some (.ok (answer, world'))) :
    (world.view agent).db.exec input stmt = .ok (answer, (world'.view agent).db) ∧
      world'.redis = world.redis := by
  cases executed_of_execSql result with
  | @selectTierForUpdate id found tiers locking =>
      obtain ⟨rfl, same⟩ := VersionedTable.view_lockWhere locking
      refine ⟨?_, rfl⟩
      simp only [Database.exec, view, same, VersionedTable.get_view]
      cases world.tiers.read agent id <;> rfl
  | selectTier => exact ⟨rfl, rfl⟩
  | missingTier missing => exact ⟨by simp [Database.exec, view, missing], rfl⟩
  | updateQuantityHeld visible notNegative granted =>
      refine ⟨?_, rfl⟩
      simp [Database.exec, view, visible, not_lt.mpr notNegative,
        VersionedTable.view_put_written granted]
  | countActiveHolds => exact ⟨rfl, rfl⟩
  | selectHold => exact ⟨rfl, rfl⟩
  | selectActiveHoldForUpdate locking =>
      obtain ⟨rfl, same⟩ := VersionedTable.view_lockWhere locking
      refine ⟨?_, rfl⟩
      simp [Database.exec, view, same]
  | selectActiveHolds => exact ⟨rfl, rfl⟩
  | insertHold accepted granted =>
      refine ⟨(if_neg accepted).trans ?_, rfl⟩
      simp only [view, VersionedTable.view_put_written granted]
  | saveStatus visible granted =>
      refine ⟨?_, rfl⟩
      simp [Database.exec, view, visible, VersionedTable.view_put_written granted]

/-- **A statement that succeeds does to its client's view what it does to the
stores of a single client**, whatever the other clients have locked or written. -/
theorem SharedWorld.exec_view {stmt : Stmt} {answer : stmt.Res}
    (result : world.exec agent input stmt = some (.ok (answer, world'))) :
    World.exec input stmt (world.view agent) = .ok (answer, world'.view agent) := by
  cases stmt with
  | env stmt =>
      cases result
      rfl
  | redis stmt =>
      cases result
      rfl
  | sql stmt =>
      obtain ⟨viewEq, redisEq⟩ := execSql_view result
      simp only [World.exec, viewEq, Except.map]
      simp only [view, redisEq]

theorem SharedWorld.execSql_error {stmt : SqlStmt} {error : CheckoutError}
    (result : world.execSql agent input stmt = some (.error error)) :
    (world.view agent).db.exec input stmt = .error error := by
  cases stmt with
  | selectTierForUpdate id => simp [execSql] at result
  | selectTier id => cases result
  | updateQuantityHeld id quantityHeld =>
      simp only [execSql] at result
      simp only [Database.exec, view, VersionedTable.get_view]
      cases visible : world.tiers.read agent id with
      | none => simp [visible] at result
      | some tier =>
          rw [visible] at result
          simp only [Option.map_eq_some_iff] at result
          obtain ⟨tiers, granted, outcome⟩ := result
          by_cases negative : quantityHeld.value < 0
          · simpa [negative] using outcome
          · simp [negative] at outcome
  | countActiveHolds user event => cases result
  | selectHold token => cases result
  | selectActiveHoldForUpdate token => simp [execSql] at result
  | selectActiveHolds tokens => cases result
  | insertHold token user tierId quantity expiresAt =>
      simp only [execSql] at result
      split at result
      · rename_i rejected
        cases result
        exact if_pos rejected
      · simp at result
  | saveStatus token status =>
      simp only [execSql] at result
      simp only [Database.exec, view, VersionedTable.get_view]
      cases visible : world.holds.read agent token with
      | none => simpa [visible] using result
      | some hold => simp [visible] at result

/-- A statement that fails fails in its client's view too. -/
theorem SharedWorld.exec_error {stmt : Stmt} {error : CheckoutError}
    (result : world.exec agent input stmt = some (.error error)) :
    World.exec input stmt (world.view agent) = .error error := by
  cases stmt with
  | env stmt => cases result
  | redis stmt => cases result
  | sql stmt => simp only [World.exec, execSql_error result, Except.map]

/-- Each client sees the stores through its view. -/
def viewed (ι : Type) [DecidableEq ι] : Viewed (engine ι) store where
  view := SharedWorld.view
  exec_ok := SharedWorld.exec_view
  exec_error := SharedWorld.exec_error

/-- What a client commits is what it has read. -/
theorem SharedWorld.db_commit (agent : ι) (world : SharedWorld ι) :
    (world.commit agent).db = (world.view agent).db := by
  simp only [db, commit, view, VersionedTable.committed_commit]

/-! ## Owning rows -/

/-- What a client owns: the rows it has locked. -/
structure Own where
  tiers : Uuid → Option (LockedRow TicketTier)
  holds : Uuid → Option (LockedRow CheckoutHold)

namespace Own

def nothing : Own := ⟨fun _ => none, fun _ => none⟩

/-- The client has locks at most. -/
structure Unwritten (own : Own) : Prop where
  tiers : ∀ id locked, own.tiers id = some locked → locked.written = none
  holds : ∀ token locked, own.holds token = some locked → locked.written = none

theorem nothing_unwritten : nothing.Unwritten := ⟨nofun, nofun⟩

end Own

namespace SharedWorld

/-- What `agent` owns. -/
def own (agent : ι) (world : SharedWorld ι) : Own :=
  ⟨VersionedTable.own agent world.tiers, VersionedTable.own agent world.holds⟩

omit [DecidableEq ι] in
@[simp] theorem own_ofWorld [DecidableEq ι] (agent : ι) (world : World) :
    own agent (ofWorld world) = .nothing := by
  simp [own, ofWorld, Own.nothing]

/-- A client that has written nothing reads the committed rows. -/
theorem view_of_unwritten (unwritten : (own agent world).Unwritten) :
    (world.view agent).db = world.db := by
  simp only [view, db, VersionedTable.view_of_unwritten unwritten.tiers,
    VersionedTable.view_of_unwritten unwritten.holds]

/-- A client that owns nothing reads what is committed. -/
theorem read_of_nothing (nothing : own agent world = .nothing) (token : Uuid) :
    world.holds.read agent token = world.db.holds.get token :=
  VersionedTable.read_of_not_own (congrFun (congrArg Own.holds nothing) token)

/-- A commit of a client that owns nothing changes nothing. -/
theorem commit_of_nothing (nothing : own agent world = .nothing) : world.commit agent = world := by
  have tiers : VersionedTable.own agent world.tiers = fun _ => none := congrArg Own.tiers nothing
  have holds : VersionedTable.own agent world.holds = fun _ => none := congrArg Own.holds nothing
  rw [commit, VersionedTable.commit_of_not_own tiers, VersionedTable.commit_of_not_own holds]

/-- So does its rollback. -/
theorem rollback_of_nothing (nothing : own agent world = .nothing) :
    world.rollback agent = world := by
  have tiers : VersionedTable.own agent world.tiers = fun _ => none := congrArg Own.tiers nothing
  have holds : VersionedTable.own agent world.holds = fun _ => none := congrArg Own.holds nothing
  rw [rollback, VersionedTable.rollback_of_not_own tiers,
    VersionedTable.rollback_of_not_own holds]

/-- Nobody waits for a client that owns nothing. -/
theorem exec_ne_none (alone : ∀ other, other ≠ agent → own other world = .nothing) (stmt : Stmt) :
    world.exec agent input stmt ≠ none := by
  have freeTier (id : Uuid) (other : ι) (different : other ≠ agent) :
      VersionedTable.own other world.tiers id = none :=
    congrFun (congrArg Own.tiers (alone other different)) id
  have freeHold (token : Uuid) (other : ι) (different : other ≠ agent) :
      VersionedTable.own other world.holds token = none :=
    congrFun (congrArg Own.holds (alone other different)) token
  cases stmt with
  | env stmt => exact Option.some_ne_none _
  | redis stmt => exact Option.some_ne_none _
  | sql stmt =>
      cases stmt with
      | selectTierForUpdate id =>
          simpa only [exec, execSql, ne_eq, Option.map_eq_none_iff] using
            VersionedTable.lockWhere_ne_none (freeTier id) _
      | selectTier id => exact Option.some_ne_none _
      | updateQuantityHeld id quantityHeld =>
          simp only [exec, execSql]
          split
          · exact Option.some_ne_none _
          · simpa only [ne_eq, Option.map_eq_none_iff] using
              VersionedTable.put_ne_none (freeTier id) _
      | countActiveHolds user event => exact Option.some_ne_none _
      | selectHold token => exact Option.some_ne_none _
      | selectActiveHoldForUpdate token =>
          simpa only [exec, execSql, ne_eq, Option.map_eq_none_iff] using
            VersionedTable.lockWhere_ne_none (freeHold token) _
      | selectActiveHolds tokens => exact Option.some_ne_none _
      | insertHold token user tierId quantity expiresAt =>
          simp only [exec, execSql]
          split
          · exact Option.some_ne_none _
          · simpa only [ne_eq, Option.map_eq_none_iff] using
              VersionedTable.put_ne_none (freeHold token) _
      | saveStatus token status =>
          simp only [exec, execSql]
          split
          · exact Option.some_ne_none _
          · simpa only [ne_eq, Option.map_eq_none_iff] using
              VersionedTable.put_ne_none (freeHold token) _

/-- What a statement can do to the tables: lock or write one row. -/
inductive Touches (agent : ι) (world : SharedWorld ι) : SharedWorld ι → Prop
  | redis (redis : Redis) : Touches agent world { world with redis := redis }
  | tier {id : Uuid} {written : Option TicketTier} {tiers : VersionedTable Uuid ι TicketTier}
      (granted : world.tiers.put agent id written = some tiers) :
      Touches agent world { world with tiers := tiers }
  | hold {token : Uuid} {written : Option CheckoutHold}
      {holds : VersionedTable Uuid ι CheckoutHold}
      (granted : world.holds.put agent token written = some holds) :
      Touches agent world { world with holds := holds }

theorem touches_of_exec {stmt : Stmt} {answer : stmt.Res}
    (result : world.exec agent input stmt = some (.ok (answer, world'))) :
    Touches agent world world' := by
  have still : Touches agent world world := .redis world.redis
  cases stmt with
  | env stmt =>
      cases result
      exact still
  | redis stmt =>
      cases result
      exact .redis _
  | sql stmt =>
      cases executed_of_execSql result with
      | selectTierForUpdate locking =>
          rcases VersionedTable.lockWhere_eq_some locking with
            ⟨-, rfl⟩ | ⟨_, _, -, -, -, -, granted⟩
          · exact still
          · exact .tier granted
      | selectTier => exact still
      | missingTier missing => exact still
      | updateQuantityHeld visible notNegative granted => exact .tier granted
      | countActiveHolds => exact still
      | selectHold => exact still
      | selectActiveHoldForUpdate locking =>
          rcases VersionedTable.lockWhere_eq_some locking with
            ⟨-, rfl⟩ | ⟨_, _, -, -, -, -, granted⟩
          · exact still
          · exact .hold granted
      | selectActiveHolds => exact still
      | insertHold accepted granted => exact .hold granted
      | saveStatus visible granted => exact .hold granted

theorem Touches.own_of_ne {other : ι} (touches : Touches agent world world')
    (different : other ≠ agent) : own other world' = own other world := by
  cases touches with
  | redis redis => rfl
  | tier granted => simp only [own, VersionedTable.own_put_of_ne granted different]
  | hold granted => simp only [own, VersionedTable.own_put_of_ne granted different]

theorem Touches.db_eq (touches : Touches agent world world') : world'.db = world.db := by
  cases touches with
  | redis redis => rfl
  | tier granted => simp only [db, VersionedTable.committed_put granted]
  | hold granted => simp only [db, VersionedTable.committed_put granted]

/-- A client keeps the lock of a hold as long as it executes statements. -/
theorem Touches.keeps_hold (touches : Touches agent world world') {token : Uuid}
    {row : LockedRow CheckoutHold} (locked : (own agent world).holds token = some row) :
    ∃ row', (own agent world').holds token = some row' := by
  cases touches with
  | redis redis => exact ⟨row, locked⟩
  | tier granted => exact ⟨row, locked⟩
  | @hold other written holds granted =>
      simp only [own, VersionedTable.own_put_self granted]
      by_cases same : token = other
      · subst same
        exact ⟨_, Function.update_self ..⟩
      · rw [Function.update_of_ne same]
        exact ⟨row, locked⟩

end SharedWorld

/-- A client owns the rows it has locked; everybody sees the committed rows. -/
def isolation (ι : Type) [DecidableEq ι] : Isolation (engine ι) Own Database where
  own := SharedWorld.own
  nothing := .nothing
  shared := SharedWorld.db
  own_exec_of_ne result different := (SharedWorld.touches_of_exec result).own_of_ne different
  shared_exec result := (SharedWorld.touches_of_exec result).db_eq
  own_commit_self agent world := by simp [engine, SharedWorld.own, SharedWorld.commit, Own.nothing]
  own_commit_of_ne world different := by
    simp [engine, SharedWorld.own, SharedWorld.commit,
      VersionedTable.own_commit_of_ne _ different]
  own_rollback_self agent world := by
    simp [engine, SharedWorld.own, SharedWorld.rollback, Own.nothing]
  own_rollback_of_ne world different := by
    simp [engine, SharedWorld.own, SharedWorld.rollback,
      VersionedTable.own_rollback_of_ne _ different]
  shared_rollback agent world := by simp [engine, SharedWorld.db, SharedWorld.rollback]

/-! ## What a statement does to what its client owns -/

/-- A condition on the committed rows that the writing statements find. -/
structure Finds where
  /-- Of an UPDATE of `quantity_held`. -/
  tier : Uuid → HeldExpr → Option TicketTier → Prop
  /-- Of a status save. -/
  hold : Uuid → HoldStatus → Option CheckoutHold → Prop

namespace Finds

/-- No condition. -/
def any : Finds := ⟨fun _ _ _ => True, fun _ _ _ => True⟩

/-- The condition holds of `stmt` when it is executed on the committed rows `db`. -/
def At (finds : Finds) (db : Database) : Stmt → Prop
  | .sql (.updateQuantityHeld id quantityHeld) => finds.tier id quantityHeld (db.tiers.get id)
  | .sql (.saveStatus token status) => finds.hold token status (db.holds.get token)
  | _ => True

/-- The condition holds of the statement `action` executes. -/
def Meets {α : Type} (finds : Finds)
    (system : System signature ι (SharedWorld ι) CheckoutError α)
    (action : Action ι Input CheckoutError) : Prop :=
  action.fault = none → ∀ stmt,
    (system.thread action.agent).program.nextStmt = some stmt → finds.At system.world.db stmt

instance decidableAt {finds : Finds}
    [∀ id quantityHeld row, Decidable (finds.tier id quantityHeld row)]
    [∀ token status row, Decidable (finds.hold token status row)] (db : Database) :
    (stmt : Stmt) → Decidable (finds.At db stmt)
  | .env _ => .isTrue trivial
  | .redis _ => .isTrue trivial
  | .sql stmt => by
      cases stmt with
      | updateQuantityHeld id quantityHeld =>
          exact inferInstanceAs (Decidable (finds.tier id quantityHeld (db.tiers.get id)))
      | saveStatus token status =>
          exact inferInstanceAs (Decidable (finds.hold token status (db.holds.get token)))
      | _ => exact .isTrue trivial

instance decidableMeets {α : Type} {finds : Finds}
    [∀ id quantityHeld row, Decidable (finds.tier id quantityHeld row)]
    [∀ token status row, Decidable (finds.hold token status row)]
    (system : System signature ι (SharedWorld ι) CheckoutError α)
    (action : Action ι Input CheckoutError) : Decidable (finds.Meets system action) :=
  inferInstanceAs (Decidable (action.fault = none → ∀ stmt ∈
    (system.thread action.agent).program.nextStmt, finds.At system.world.db stmt))

theorem at_any (db : Database) (stmt : Stmt) : any.At db stmt := by
  cases stmt with
  | env stmt => trivial
  | redis stmt => trivial
  | sql stmt => cases stmt <;> trivial

omit [DecidableEq ι] in
theorem meets_any {α : Type} {system : System signature ι (SharedWorld ι) CheckoutError α}
    {action : Action ι Input CheckoutError} : any.Meets system action :=
  fun _ stmt _ => at_any system.world.db stmt

end Finds

/-- A client that owns `own` finds the row under `key` as `locked`. -/
def Sees {K V : Type} (own : K → Option (LockedRow V)) (key : K) (locked : LockedRow V) : Prop :=
  own key = some locked ∨ own key = none ∧ locked.written = none

theorem Sees.eq {K V : Type} {own : K → Option (LockedRow V)} {key : K}
    {locked found : LockedRow V} (sees : Sees own key found) (owned : own key = some locked) :
    found = locked := by
  rcases sees with held | ⟨notOwned, -⟩
  · exact Option.some.inj (held.symm.trans owned)
  · exact absurd (notOwned.symm.trans owned) nofun

/-- A row that was not locked is found as it was committed. -/
theorem Sees.committed {K V : Type} {own : K → Option (LockedRow V)} {key : K}
    {found : LockedRow V} {row : V} (sees : Sees own key found) (notOwned : own key = none)
    (current : found.current = some row) : found = ⟨some row, none⟩ := by
  rcases sees with held | ⟨-, unwritten⟩
  · exact absurd (notOwned.symm.trans held) nofun
  · obtain ⟨committed, written⟩ := found
    subst unwritten
    exact congrArg (LockedRow.mk · none) current

/-- What a statement can do to what its client owns, with its answer. -/
def Moves (finds : Finds) : (stmt : Stmt) → Own → stmt.Res → Own → Prop
  | .sql (.selectTierForUpdate id), own, answer, own' =>
      answer = none ∧ own' = own ∨
        ∃ tier locked, answer = some tier ∧ Sees own.tiers id locked ∧
          locked.current = some tier ∧
          own' = { own with tiers := Function.update own.tiers id (some locked) }
  | .sql (.updateQuantityHeld id quantityHeld), own, _, own' =>
      (own' = own ∧ finds.tier id quantityHeld none ∧
        ∀ locked, own.tiers id = some locked → locked.current = none) ∨
      ∃ tier locked, Sees own.tiers id locked ∧ locked.current = some tier ∧
        0 ≤ quantityHeld.value ∧ finds.tier id quantityHeld locked.committed ∧
        own' = { own with
          tiers := Function.update own.tiers id (some ⟨locked.committed,
            some { tier with quantityHeld := quantityHeld.value.toNat }⟩) }
  | .sql (.selectActiveHoldForUpdate token), own, answer, own' =>
      answer = none ∧ own' = own ∨
        ∃ hold locked, answer = some hold ∧ hold.status = .active ∧ Sees own.holds token locked ∧
          locked.current = some hold ∧
          own' = { own with holds := Function.update own.holds token (some locked) }
  | .sql (.insertHold token user tierId quantity expiresAt), own, hold, own' =>
      0 ≤ quantity ∧ hold = { user, tierId, quantity := quantity.toNat, expiresAt } ∧
        own' = { own with holds := Function.update own.holds token (some ⟨none, some hold⟩) }
  | .sql (.saveStatus token status), own, _, own' =>
      ∃ hold locked, Sees own.holds token locked ∧ locked.current = some hold ∧
        finds.hold token status locked.committed ∧
        own' = { own with
          holds := Function.update own.holds token
            (some ⟨locked.committed, some { hold with status }⟩) }
  | _, own, _, own' => own' = own

theorem Sees.of_shows {K V : Type} {table : VersionedTable K ι V} {key : K}
    {locked : LockedRow V} (shows : table.Shows agent key locked) :
    Sees (VersionedTable.own agent table) key locked := shows.2

/-- An absent row has not been committed, and its client has not written it. -/
theorem absent_of_read {K V : Type} {table : VersionedTable K ι V} {key : K}
    (absent : table.read agent key = none) :
    table.committed.get key = none ∧
      ∀ locked, VersionedTable.own agent table key = some locked → locked.current = none := by
  cases owned : VersionedTable.own agent table key with
  | none => exact ⟨(VersionedTable.read_of_not_own owned).symm.trans absent, nofun⟩
  | some locked =>
      have current : locked.current = none := (VersionedTable.read_of_own owned).symm.trans absent
      refine ⟨?_, fun found eq => (Option.some.inj eq) ▸ current⟩
      rw [VersionedTable.get_committed_of_own owned]
      exact (Option.or_eq_none_iff.mp current).2

/-- **Every executed statement is one of the `Moves`.** -/
theorem moves_of_exec {finds : Finds} {stmt : Stmt} {answer : stmt.Res}
    (result : world.exec agent input stmt = some (.ok (answer, world')))
    (found : finds.At world.db stmt) :
    Moves finds stmt (world.own agent) answer (world'.own agent) := by
  cases stmt with
  | env stmt =>
      cases result
      rfl
  | redis stmt =>
      cases result
      rfl
  | sql stmt =>
      cases executed_of_execSql result with
      | @selectTierForUpdate id row tiers locking =>
          rcases VersionedTable.lockWhere_eq_some locking with
            ⟨rfl, rfl⟩ | ⟨tier, locked, rfl, -, current, shows, granted⟩
          · exact .inl ⟨rfl, rfl⟩
          · refine .inr ⟨tier, locked, rfl, .of_shows shows, current, ?_⟩
            simp only [SharedWorld.own, VersionedTable.own_put_self granted, ← shows.1]
      | selectTier => rfl
      | missingTier missing =>
          obtain ⟨uncommitted, absent⟩ := absent_of_read missing
          exact .inl ⟨rfl, uncommitted ▸ found, absent⟩
      | @updateQuantityHeld id quantityHeld tier tiers visible notNegative granted =>
          obtain ⟨locked, shows, readEq, -⟩ := VersionedTable.exists_shows world.tiers agent id
          refine .inr ⟨tier, locked, .of_shows shows, readEq ▸ visible, notNegative,
            shows.1.symm ▸ found, ?_⟩
          simp only [SharedWorld.own, VersionedTable.own_put_self granted, ← shows.1]
      | countActiveHolds => rfl
      | selectHold => rfl
      | @selectActiveHoldForUpdate token row holds locking =>
          rcases VersionedTable.lockWhere_eq_some locking with
            ⟨rfl, rfl⟩ | ⟨hold, locked, rfl, kept, current, shows, granted⟩
          · exact .inl ⟨rfl, rfl⟩
          · refine .inr ⟨hold, locked, rfl, by simpa using kept, .of_shows shows, current, ?_⟩
            simp only [SharedWorld.own, VersionedTable.own_put_self granted, ← shows.1]
      | selectActiveHolds => rfl
      | insertHold accepted granted =>
          simp only [not_or, not_lt, Option.not_isSome_iff_eq_none] at accepted
          obtain ⟨nonneg, -, absent⟩ := accepted
          refine ⟨nonneg, rfl, ?_⟩
          simp only [SharedWorld.own, VersionedTable.own_put_self granted,
            (absent_of_read absent).1]
      | @saveStatus token status hold holds visible granted =>
          obtain ⟨locked, shows, readEq, -⟩ := VersionedTable.exists_shows world.holds agent token
          refine ⟨hold, locked, .of_shows shows, readEq ▸ visible, shows.1.symm ▸ found, ?_⟩
          simp only [SharedWorld.own, VersionedTable.own_put_self granted, ← shows.1]

end Exec

end Ticketing
