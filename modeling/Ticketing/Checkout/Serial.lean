import Ticketing.Checkout.Services
import Ticketing.Checkout.Balance

/-!
# Serial runs of the checkout

What one complete call does when nothing else is running, and what whole
sequences of calls preserve.

## Main Definitions

* `heldUpdates` — the values a run writes to `quantity_held`
* `CreateHoldResult`, `ReleaseResult` — everything one call can do
* `Request`, `serialRun` — sequences of complete calls

## Main Results

* `createHold_run`, `releaseHoldByToken_run`, `releaseHoldOnPaymentTimeout_run` —
  one specification for each function
* `serialRun_balanced` — every counter agrees with the holds after any sequence
-/

namespace Ticketing

open Transactional Program

/-! ## Statements of a single client -/

section Statements

variable {α : Type} (inputs : ℕ → Input) (saved : Option World) (world : World)

@[simp] theorem rollback_store (saved world : World) :
    store.rollback saved world = { world with db := saved.db } := rfl

@[simp] theorem run_env (stmt : EnvStmt) (next : stmt.Res → Checkout α) :
    (call (S := signature) (.env stmt) next).run store none inputs saved world
      = (next (stmt.answer (inputs 0))).run store none (fun n => inputs (n + 1)) saved world := by
  rw [run_call]
  rfl

@[simp] theorem run_redis (stmt : RedisStmt) (next : stmt.Res → Checkout α) :
    (call (S := signature) (.redis stmt) next).run store none inputs saved world
      = (next (world.redis.exec (inputs 0) stmt).1).run store none (fun n => inputs (n + 1)) saved
          { world with redis := (world.redis.exec (inputs 0) stmt).2 } := by
  rw [run_call]
  rfl

theorem run_sql_ok {stmt : SqlStmt} {answer : stmt.Res} {db : Database}
    (next : stmt.Res → Checkout α) (result : world.db.exec (inputs 0) stmt = .ok (answer, db)) :
    (call (S := signature) (.sql stmt) next).run store none inputs saved world
      = (next answer).run store none (fun n => inputs (n + 1)) saved { world with db := db } := by
  rw [run_call]
  simp only [store, World.exec, result]
  rfl

theorem run_sql_error {stmt : SqlStmt} {error : CheckoutError} (next : stmt.Res → Checkout α)
    (result : world.db.exec (inputs 0) stmt = .error error) :
    (call (S := signature) (.sql stmt) next).run store none inputs saved world
      = (.raised error, store.abort saved world) := by
  rw [run_call]
  simp only [store, World.exec, result]
  rfl

/-- The value an UPDATE of `quantity_held` writes. -/
def Stmt.heldUpdate : Stmt → Option ℤ
  | .sql (.updateQuantityHeld _ quantityHeld) => some quantityHeld.value
  | _ => none

/-- The values a program writes to `quantity_held` when it runs alone, the one
the database rejects included. -/
def heldUpdates (program : Checkout α) (inputs : ℕ → Input) (world : World) : List ℤ :=
  (program.sent store inputs world).filterMap Stmt.heldUpdate

@[simp] theorem heldUpdates_done (value : α) :
    heldUpdates (done value : Checkout α) inputs world = [] := rfl

@[simp] theorem heldUpdates_raise (error : CheckoutError) :
    heldUpdates (raise error : Checkout α) inputs world = [] := rfl

@[simp] theorem heldUpdates_begin (rest : Checkout α) :
    heldUpdates (begin rest) inputs world = heldUpdates rest inputs world := rfl

@[simp] theorem heldUpdates_commit (rest : Checkout α) :
    heldUpdates (commit rest) inputs world = heldUpdates rest inputs world := rfl

@[simp] theorem heldUpdates_env (stmt : EnvStmt) (next : stmt.Res → Checkout α) :
    heldUpdates (call (S := signature) (.env stmt) next) inputs world
      = heldUpdates (next (stmt.answer (inputs 0))) (fun n => inputs (n + 1)) world := rfl

@[simp] theorem heldUpdates_redis (stmt : RedisStmt) (next : stmt.Res → Checkout α) :
    heldUpdates (call (S := signature) (.redis stmt) next) inputs world
      = heldUpdates (next (world.redis.exec (inputs 0) stmt).1) (fun n => inputs (n + 1))
          { world with redis := (world.redis.exec (inputs 0) stmt).2 } := rfl

theorem heldUpdates_sql_ok {stmt : SqlStmt} {answer : stmt.Res} {db : Database}
    (next : stmt.Res → Checkout α) (result : world.db.exec (inputs 0) stmt = .ok (answer, db)) :
    heldUpdates (call (S := signature) (.sql stmt) next) inputs world
      = (Stmt.heldUpdate (.sql stmt)).toList ++
          heldUpdates (next answer) (fun n => inputs (n + 1)) { world with db := db } := by
  simp only [heldUpdates, sent, store, World.exec, result, Except.map, List.filterMap_cons]
  cases Stmt.heldUpdate (.sql stmt) <;> rfl

theorem heldUpdates_sql_error {stmt : SqlStmt} {error : CheckoutError}
    (next : stmt.Res → Checkout α)
    (result : world.db.exec (inputs 0) stmt = .error error) :
    heldUpdates (call (S := signature) (.sql stmt) next) inputs world
      = (Stmt.heldUpdate (.sql stmt)).toList := by
  simp only [heldUpdates, sent, store, World.exec, result, Except.map, List.filterMap_cons]
  cases Stmt.heldUpdate (.sql stmt) <;> rfl

end Statements

/-! ## One call -/

/-- What a successful `create_hold` leaves in Redis. -/
def Redis.placed (redis : Redis) (token : String) (entry : HoldEntry) (dies : Time) : Redis where
  registry := Function.update redis.registry token (some (entry, dies))
  expiryZset := redis.expiryZset.add token entry.expiresAt
  availability := Function.update redis.availability entry.tierId none

theorem Redis.exec_placed (redis : Redis) (token : String) (entry : HoldEntry) (ttl : ℤ)
    (first second third : Input) :
    (((redis.exec first (.setHold token entry ttl)).2.exec second
        (.zadd token entry.expiresAt)).2.exec third (.deleteAvailability entry.tierId)).2
      = redis.placed token entry (first.now + ttl * Ticketing.second) := rfl

/-- What giving a hold's stock back leaves in Redis. -/
def Redis.dropped (redis : Redis) (token tierId : String) : Redis :=
  { redis with
    registry := Function.update redis.registry token none
    availability := Function.update redis.availability tierId none }

/-- Everything `create_hold` can do, with the values it writes to `quantity_held`:
raise and leave no trace, or place one hold. -/
inductive CreateHoldResult (user : Uuid) (tierId : String) (quantity : ℤ) (world : World) :
    Outcome CheckoutError (Uuid × CheckoutHold) × World → List ℤ → Prop
  | raised (error : CheckoutError) :
      CreateHoldResult user tierId quantity world (.raised error, world) []
  | placed {id token : Uuid} {tier : TicketTier} {hold : CheckoutHold} {dies : Time}
      (parsed : Uuid.parse tierId = some id)
      (present : world.db.tiers.get id = some tier)
      (belowCap : world.db.activeHoldsCount user tier.event < maxHoldsPerUserPerEvent)
      (fits : quantity ≤ tier.quantityAvailable)
      (quantityEq : (hold.quantity : ℤ) = quantity)
      (userEq : hold.user = user) (tierEq : hold.tierId = id) (active : hold.status = .active)
      (absent : world.db.holds.get token = none) :
      CreateHoldResult user tierId quantity world
        (.returned (token, hold),
          { db := world.db.place id tier token hold
            redis := world.redis.placed token.str
              { tierId, quantity, expiresAt := hold.expiresAt, userId := user.str } dies })
        [tier.quantityHeld + quantity]

/-- What one program does alone, started in `world` with the transaction begun in `saved`. -/
abbrev Runs {α : Type} (Result : Outcome CheckoutError α × World → List ℤ → Prop)
    (program : Checkout α) (inputs : ℕ → Input) (saved : Option World) (world : World) : Prop :=
  Result (program.run store none inputs saved world) (heldUpdates program inputs world)

theorem placeHold_run {world saved : World} {id : Uuid} {tier : TicketTier}
    (user : Uuid) (tierId : String) (quantity : ℤ) (inputs : ℕ → Input)
    (unchanged : saved = world)
    (parsed : Uuid.parse tierId = some id) (present : world.db.tiers.get id = some tier)
    (belowCap : world.db.activeHoldsCount user tier.event < maxHoldsPerUserPerEvent)
    (fits : quantity ≤ tier.quantityAvailable) :
    Runs (CreateHoldResult user tierId quantity world)
      (placeHold user tierId id tier quantity >>= fun value => commit (done value))
      inputs (some saved) world := by
  subst unchanged
  simp only [Runs, placeHold, now, uuid4, sql, redis, registerHold, pushHoldExpiry,
    invalidateAvailability, send, call_bind, done_bind, run_env, heldUpdates_env, EnvStmt.answer]
  set token := (inputs 1).uuid
  set expiresAt := (inputs 0).now + holdDuration
  set hold : CheckoutHold := { user, tierId := id, quantity := quantity.toNat, expiresAt }
  by_cases rejected : quantity < 0 ∨ saved.db.tiers.get id = none ∨
      (saved.db.holds.get token).isSome
  · have insert : saved.db.exec (inputs 2) (.insertHold token user id quantity expiresAt)
        = .error .integrity := if_pos rejected
    rw [run_sql_error _ _ _ _ insert, heldUpdates_sql_error _ _ _ insert]
    exact .raised .integrity
  · have insert : saved.db.exec (inputs 2) (.insertHold token user id quantity expiresAt)
        = .ok (hold, { saved.db with holds := saved.db.holds.set token hold }) := if_neg rejected
    rw [run_sql_ok _ _ _ _ insert, heldUpdates_sql_ok _ _ _ insert]
    simp only [not_or, not_lt, Option.not_isSome_iff_eq_none] at rejected
    obtain ⟨nonneg, -, absent⟩ := rejected
    have quantityEq : (hold.quantity : ℤ) = quantity := Int.toNat_of_nonneg nonneg
    have notNegative : ¬ (HeldExpr.plus tier.quantityHeld quantity).value < 0 := by
      simp only [HeldExpr.value]
      omega
    have value : (HeldExpr.plus tier.quantityHeld quantity).value.toNat
        = tier.quantityHeld + hold.quantity := by
      simp only [HeldExpr.value]
      omega
    have update :
        Database.exec (inputs 3) (.updateQuantityHeld id (.plus tier.quantityHeld quantity))
          { saved.db with holds := saved.db.holds.set token hold }
          = .ok ((), saved.db.place id tier token hold) := by
      simp only [Database.exec, present, if_neg notNegative, value]
      rfl
    rw [run_sql_ok _ _ _ _ update, heldUpdates_sql_ok _ _ _ update]
    simp only [run_env, run_redis, heldUpdates_env, heldUpdates_redis, EnvStmt.answer]
    rw [Redis.exec_placed saved.redis token.str ⟨tierId, quantity, hold.expiresAt, user.str⟩]
    exact .placed parsed present belowCap fits quantityEq rfl rfl rfl absent

/-- **Specification of `create_hold`.** -/
theorem createHold_run (user : Uuid) (tierId : String) (quantity : ℤ) (inputs : ℕ → Input)
    (world : World) :
    Runs (CreateHoldResult user tierId quantity world) (createHold user tierId quantity)
      inputs none world := by
  unfold createHold atomic Runs
  rw [run_begin, heldUpdates_begin]
  cases parsed : Uuid.parse tierId with
  | none => exact .raised _
  | some id =>
      simp only [sql, send, call_bind, done_bind]
      have select : world.db.exec (inputs 0) (.selectTierForUpdate id)
        = .ok (world.db.tiers.get id, world.db) := rfl
      rw [run_sql_ok _ _ _ _ select, heldUpdates_sql_ok _ _ _ select]
      cases present : world.db.tiers.get id with
      | none => exact .raised _
      | some tier =>
          simp only [call_bind]
          have count : world.db.exec (inputs 1) (.countActiveHolds user tier.event)
            = .ok (world.db.activeHoldsCount user tier.event, world.db) := rfl
          rw [run_sql_ok _ _ _ _ count, heldUpdates_sql_ok _ _ _ count]
          by_cases atCap : world.db.activeHoldsCount user tier.event ≥ maxHoldsPerUserPerEvent
          · rw [if_pos atCap]
            exact .raised _
          · rw [if_neg atCap]
            by_cases short : tier.quantityAvailable < quantity
            · rw [if_pos short]
              exact .raised _
            · rw [if_neg short]
              exact placeHold_run user tierId quantity _ rfl parsed present (lt_of_not_ge atCap)
                (le_of_not_gt short)

/-- Everything a release can do, with the values it writes to `quantity_held`:
nothing (raising or not), fail because the counter is smaller than the hold, or
end one ACTIVE hold that is `due` and give its stock back. -/
inductive ReleaseResult (due : CheckoutHold → Prop) (holdToken : String) (world : World) :
    Outcome CheckoutError Unit × World → List ℤ → Prop
  | raised (error : CheckoutError)
      (reason : ∀ token hold, Uuid.parse holdToken = some token →
        world.db.holds.get token = some hold → hold.status = .active →
        world.db.tiers.get hold.tierId = none) :
      ReleaseResult due holdToken world (.raised error, world) []
  | ignored
      (reason : ∀ token hold, Uuid.parse holdToken = some token →
        world.db.holds.get token = some hold → hold.status = .active → ¬ due hold) :
      ReleaseResult due holdToken world (.returned (), world) []
  | overdrawn {token : Uuid} {hold : CheckoutHold} {tier : TicketTier}
      (stored : world.db.holds.get token = some hold) (active : hold.status = .active)
      (present : world.db.tiers.get hold.tierId = some tier)
      (short : tier.quantityHeld < hold.quantity) :
      ReleaseResult due holdToken world (.raised .integrity, world)
        [tier.quantityHeld - hold.quantity]
  | released {token : Uuid} {hold : CheckoutHold} {tier : TicketTier} {held : ℕ}
      (parsed : Uuid.parse holdToken = some token)
      (stored : world.db.holds.get token = some hold) (active : hold.status = .active)
      (present : world.db.tiers.get hold.tierId = some tier)
      (current : held + hold.quantity = tier.quantityHeld) :
      ReleaseResult due holdToken world
        (.returned (),
          { db := world.db.giveBack tier held token hold .released
            redis := world.redis.dropped holdToken hold.tierId.str })
        [tier.quantityHeld - hold.quantity]

theorem returnStock_run {due : CheckoutHold → Prop} {world saved : World} {token : Uuid}
    {hold : CheckoutHold} (holdToken : String) (inputs : ℕ → Input) (unchanged : saved = world)
    (parsed : Uuid.parse holdToken = some token)
    (stored : world.db.holds.get token = some hold) (active : hold.status = .active) :
    Runs (ReleaseResult due holdToken world)
      (returnStock holdToken token hold >>= fun value => commit (done value))
      inputs (some saved) world := by
  subst unchanged
  simp only [Runs, returnStock, sql, redis, releaseHold, invalidateAvailability, send, call_bind,
    done_bind]
  have save : saved.db.exec (inputs 0) (.saveStatus token .released)
      = .ok ((), { saved.db with
          holds := saved.db.holds.set token { hold with status := .released } }) := by
    simp only [Database.exec, stored]
  rw [run_sql_ok _ _ _ _ save, heldUpdates_sql_ok _ _ _ save]
  have select (db : Database) : db.exec (inputs 1) (.selectTier hold.tierId)
      = .ok (db.tiers.get hold.tierId, db) := rfl
  rw [run_sql_ok _ _ _ _ (select _), heldUpdates_sql_ok _ _ _ (select _)]
  cases present : saved.db.tiers.get hold.tierId with
  | none =>
      refine .raised _ fun token' hold' parsed' stored' _ => ?_
      cases parsed.symm.trans parsed'
      cases stored.symm.trans stored'
      exact present
  | some tier =>
      simp only [call_bind, done_bind]
      by_cases negative : (HeldExpr.minus tier.quantityHeld token hold).value < 0
      · have update : Database.exec (inputs 2)
            (.updateQuantityHeld hold.tierId (.minus tier.quantityHeld token hold))
            { saved.db with holds := saved.db.holds.set token { hold with status := .released } }
              = .error .integrity := by
          simp only [Database.exec, present, if_pos negative]
        rw [run_sql_error _ _ _ _ update, heldUpdates_sql_error _ _ _ update]
        simp only [HeldExpr.value] at negative
        exact .overdrawn stored active present (by omega)
      · have update : Database.exec (inputs 2)
            (.updateQuantityHeld hold.tierId (.minus tier.quantityHeld token hold))
            { saved.db with holds := saved.db.holds.set token { hold with status := .released } }
              = .ok ((), saved.db.giveBack tier
                  (HeldExpr.minus tier.quantityHeld token hold).value.toNat token hold
                  .released) := by
          simp only [Database.exec, present, if_neg negative]
          rfl
        rw [run_sql_ok _ _ _ _ update, heldUpdates_sql_ok _ _ _ update]
        have current : (HeldExpr.minus tier.quantityHeld token hold).value.toNat + hold.quantity
            = tier.quantityHeld := by
          simp only [HeldExpr.value] at negative ⊢
          omega
        simp only [run_redis, heldUpdates_redis, Redis.exec]
        exact .released parsed stored active present current

/-- **Specification of `release_hold_by_token`.** -/
theorem releaseHoldByToken_run {due : CheckoutHold → Prop} (holdToken : String)
    (inputs : ℕ → Input) (world : World) :
    Runs (ReleaseResult due holdToken world) (releaseHoldByToken holdToken) inputs none world := by
  unfold releaseHoldByToken atomic Runs
  rw [run_begin, heldUpdates_begin]
  cases parsed : Uuid.parse holdToken with
  | none => exact .raised _ (by simp [parsed])
  | some token =>
      simp only [sql, send, call_bind, done_bind]
      have select : world.db.exec (inputs 0) (.selectActiveHoldForUpdate token)
        = .ok ((world.db.holds.get token).filter (·.status = .active), world.db) := rfl
      rw [run_sql_ok _ _ _ _ select, heldUpdates_sql_ok _ _ _ select]
      cases found : (world.db.holds.get token).filter (·.status = .active) with
      | none =>
          refine .ignored fun token' hold parsed' stored active => ?_
          cases parsed.symm.trans parsed'
          rw [stored] at found
          simp [active] at found
      | some hold =>
          obtain ⟨stored, active⟩ := Option.filter_eq_some_iff.mp found
          exact returnStock_run holdToken _ rfl parsed stored (by simpa using active)

/-- **Specification of `release_hold_on_payment_timeout`.** -/
theorem releaseHoldOnPaymentTimeout_run (holdToken : String) (inputs : ℕ → Input) (world : World) :
    Runs (ReleaseResult (fun hold => hold.expiresAt < (inputs 1).now) holdToken world)
      (releaseHoldOnPaymentTimeout holdToken) inputs none world := by
  unfold releaseHoldOnPaymentTimeout Runs
  cases parsed : Uuid.parse holdToken with
  | none => exact .raised _ (by simp [parsed])
  | some token =>
      simp only [sql, now, send, call_bind, done_bind]
      have select : world.db.exec (inputs 0) (.selectHold token)
        = .ok (world.db.holds.get token, world.db) := rfl
      rw [run_sql_ok _ _ _ _ select, heldUpdates_sql_ok _ _ _ select]
      cases stored : world.db.holds.get token with
      | none =>
          refine .ignored fun token' hold' parsed' stored' => ?_
          cases parsed.symm.trans parsed'
          cases stored.symm.trans stored'
      | some hold =>
          simp only
          split
          · rw [run_env, heldUpdates_env]
            split
            · simpa only [Stmt.heldUpdate, Option.toList_none, List.nil_append] using
                releaseHoldByToken_run holdToken _ world
            · rename_i early
              refine .ignored fun token' hold' parsed' stored' _ late => early ?_
              cases parsed.symm.trans parsed'
              cases stored.symm.trans stored'
              exact late
          · rename_i inactive
            refine .ignored fun token' hold' parsed' stored' active _ => inactive ?_
            cases parsed.symm.trans parsed'
            cases stored.symm.trans stored'
            exact active

/-! ### Which calls go through -/

/-- What happens to an ACTIVE hold that a release has locked: its tier is missing, the counter
is smaller than the hold, or the stock is returned. -/
def returnOutcome (holdToken : String) (token : Uuid) (hold : CheckoutHold) (world : World) :
    Outcome CheckoutError Unit × World :=
  match world.db.tiers.get hold.tierId with
  | none => (.raised .tierDoesNotExist, world)
  | some tier =>
    if tier.quantityHeld < hold.quantity then (.raised .integrity, world)
    else
      (.returned (),
        { db := world.db.giveBack tier (tier.quantityHeld - hold.quantity) token hold .released
          redis := world.redis.dropped holdToken hold.tierId.str })

/-- What a release does alone. -/
def releaseOutcome (holdToken : String) (world : World) : Outcome CheckoutError Unit × World :=
  match Uuid.parse holdToken with
  | none => (.raised (.invalidUuid holdToken), world)
  | some token =>
    match (world.db.holds.get token).filter (·.status = .active) with
    | none => (.returned (), world)
    | some hold => returnOutcome holdToken token hold world

/-- The hold under `token` is ACTIVE, and the counter of its tier covers it. -/
structure Database.Returnable (db : Database) (token : Uuid) (hold : CheckoutHold)
    (tier : TicketTier) : Prop where
  stored : db.holds.get token = some hold
  active : hold.status = .active
  present : db.tiers.get hold.tierId = some tier
  covered : hold.quantity ≤ tier.quantityHeld

section GoesThrough

variable {world : World} {token : Uuid} {hold : CheckoutHold} {tier : TicketTier}
  {holdToken : String}

/-- The statements after the lock, inside a transaction that has changed nothing yet. -/
theorem returnStock_outcome (stored : world.db.holds.get token = some hold)
    (inputs : ℕ → Input) :
    (returnStock holdToken token hold >>= fun value => commit (done value)).run store none inputs
        (some world) world = returnOutcome holdToken token hold world := by
  simp only [returnStock, sql, redis, releaseHold, invalidateAvailability, send, call_bind,
    done_bind]
  have save : world.db.exec (inputs 0) (.saveStatus token .released)
      = .ok ((), { world.db with
          holds := world.db.holds.set token { hold with status := .released } }) := by
    simp only [Database.exec, stored]
  have select (db : Database) (input : Input) : db.exec input (.selectTier hold.tierId)
      = .ok (db.tiers.get hold.tierId, db) := rfl
  rw [run_sql_ok _ _ _ _ save, run_sql_ok _ _ _ _ (select _ _), returnOutcome]
  cases present : world.db.tiers.get hold.tierId with
  | none => rfl
  | some tier =>
      simp only [call_bind, done_bind]
      split_ifs with short
      · have negative : (HeldExpr.minus tier.quantityHeld token hold).value < 0 := by
          simp only [HeldExpr.value]
          omega
        rw [run_sql_error]
        · rfl
        · simp only [Database.exec, present, if_pos negative]
      · have value : (HeldExpr.minus tier.quantityHeld token hold).value
            = ((tier.quantityHeld - hold.quantity : ℕ) : ℤ) := (Nat.cast_sub (not_lt.mp short)).symm
        have update : Database.exec (inputs 2)
            (.updateQuantityHeld hold.tierId (.minus tier.quantityHeld token hold))
            { world.db with holds := world.db.holds.set token { hold with status := .released } }
              = .ok ((), world.db.giveBack tier (tier.quantityHeld - hold.quantity) token hold
                  .released) := by
          simp only [Database.exec, present, value, if_neg (Int.natCast_nonneg _).not_gt,
            Int.toNat_natCast]
          rfl
        rw [run_sql_ok _ _ _ _ update]
        simp only [run_redis, Redis.exec]
        rfl

/-- **A release alone** does the same whatever it takes from its surroundings. -/
theorem releaseHoldByToken_outcome (holdToken : String) (inputs : ℕ → Input) (world : World) :
    (releaseHoldByToken holdToken).run store none inputs none world
      = releaseOutcome holdToken world := by
  unfold releaseHoldByToken atomic releaseOutcome
  rw [run_begin]
  cases Uuid.parse holdToken with
  | none => rfl
  | some token =>
      simp only [sql, send, call_bind, done_bind]
      have select : world.db.exec (inputs 0) (.selectActiveHoldForUpdate token)
          = .ok ((world.db.holds.get token).filter (·.status = .active), world.db) := rfl
      rw [run_sql_ok _ _ _ _ select]
      cases found : (world.db.holds.get token).filter (·.status = .active) with
      | none => rfl
      | some hold => exact returnStock_outcome (Option.filter_eq_some_iff.mp found).1 _

/-- The stock of a returnable hold is returned. -/
theorem releaseOutcome_of_returnable (parsed : Uuid.parse holdToken = some token)
    (returnable : world.db.Returnable token hold tier) :
    releaseOutcome holdToken world
      = (.returned (), ⟨world.db.giveBack tier (tier.quantityHeld - hold.quantity) token hold
          .released, world.redis.dropped holdToken hold.tierId.str⟩) := by
  have found : (world.db.holds.get token).filter (·.status = .active) = some hold := by
    rw [returnable.stored]
    exact Option.filter_some_pos (decide_eq_true returnable.active)
  simp only [releaseOutcome, parsed, found, returnOutcome, returnable.present,
    if_neg returnable.covered.not_gt]

/-- Nothing else is changed. -/
theorem releaseOutcome_of_not_returnable (parsed : Uuid.parse holdToken = some token)
    (stays : ¬ ∃ hold tier, world.db.Returnable token hold tier) :
    (releaseOutcome holdToken world).2 = world := by
  simp only [releaseOutcome, parsed]
  cases found : (world.db.holds.get token).filter (·.status = .active) with
  | none => rfl
  | some hold =>
      obtain ⟨stored, active⟩ := Option.filter_eq_some_iff.mp found
      simp only [returnOutcome]
      cases present : world.db.tiers.get hold.tierId with
      | none => rfl
      | some tier =>
          simp only
          split_ifs with short
          · rfl
          · exact absurd ⟨hold, tier, stored, of_decide_eq_true active, present, not_lt.mp short⟩
              stays

/-- The timeout task hands an ACTIVE hold that has expired to the release. -/
theorem releaseHoldOnPaymentTimeout_due (parsed : Uuid.parse holdToken = some token)
    (stored : world.db.holds.get token = some hold) (active : hold.status = .active)
    {inputs : ℕ → Input} (due : hold.expiresAt < (inputs 1).now) :
    (releaseHoldOnPaymentTimeout holdToken).run store none inputs none world
      = (releaseHoldByToken holdToken).run store none (fun n => inputs (n + 2)) none world := by
  unfold releaseHoldOnPaymentTimeout
  rw [parsed]
  simp only [sql, now, send, call_bind, done_bind]
  have select : world.db.exec (inputs 0) (.selectHold token)
      = .ok (some hold, world.db) := by
    rw [← stored]
    rfl
  rw [run_sql_ok _ _ _ _ select]
  simp only [if_pos active, run_env]
  have late : EnvStmt.now.answer (inputs 1) > hold.expiresAt := due
  rw [if_pos late]

/-- The timeout task leaves every other hold alone. -/
theorem releaseHoldOnPaymentTimeout_early (parsed : Uuid.parse holdToken = some token)
    {inputs : ℕ → Input} (early : ∀ hold, world.db.holds.get token = some hold →
      hold.status = .active → ¬ hold.expiresAt < (inputs 1).now) :
    (releaseHoldOnPaymentTimeout holdToken).run store none inputs none world
      = (.returned (), world) := by
  unfold releaseHoldOnPaymentTimeout
  rw [parsed]
  simp only [sql, now, send, call_bind, done_bind]
  have select : world.db.exec (inputs 0) (.selectHold token)
      = .ok (world.db.holds.get token, world.db) := rfl
  rw [run_sql_ok _ _ _ _ select]
  cases stored : world.db.holds.get token with
  | none => rfl
  | some hold =>
      simp only
      split
      · rename_i active
        have notLate : ¬ EnvStmt.now.answer (inputs 1) > hold.expiresAt :=
          early hold stored active
        simp only [run_env, if_neg notLate]
        rfl
      · rfl

end GoesThrough

/-! ## Sequences of calls -/

/-- A complete call of one of the three functions. -/
inductive Request
  | createHold (user : Uuid) (tierId : String) (quantity : ℤ)
  | releaseHoldByToken (holdToken : String)
  | releaseHoldOnPaymentTimeout (holdToken : String)

/-- The program a request runs. -/
def Request.program : Request → Checkout Unit
  | .createHold user tierId quantity => (Ticketing.createHold user tierId quantity).discard
  | .releaseHoldByToken holdToken => Ticketing.releaseHoldByToken holdToken
  | .releaseHoldOnPaymentTimeout holdToken => Ticketing.releaseHoldOnPaymentTimeout holdToken

/-- The world after a sequence of complete calls, each with its own inputs. -/
def serialRun : List (Request × (ℕ → Input)) → World → World
  | [], world => world
  | (request, inputs) :: rest, world =>
      serialRun rest (request.program.run store none inputs none world).2

/-- What a complete run that started in `world` owes to a balanced database:
it is balanced again, no value written to `quantity_held` is negative, and an
exception leaves every hold and tier as it was. -/
structure Conserves {α : Type} (world : World) (result : Outcome CheckoutError α × World)
    (written : List ℤ) : Prop where
  balanced : result.2.db.Balanced
  nonneg : ∀ value ∈ written, 0 ≤ value
  unchanged : ∀ error, result.1 = .raised error → result.2.db = world.db

theorem CreateHoldResult.conserves {user : Uuid} {tierId : String} {quantity : ℤ} {world : World}
    {result : Outcome CheckoutError (Uuid × CheckoutHold) × World} {written : List ℤ}
    (spec : CreateHoldResult user tierId quantity world result written)
    (balanced : world.db.Balanced) : Conserves world result written := by
  cases spec with
  | raised error => exact ⟨balanced, by simp, fun _ _ => rfl⟩
  | placed parsed present belowCap fits quantityEq userEq tierEq active absent =>
      refine ⟨balanced.place present absent tierEq active (quantityEq ▸ fits), ?_, nofun⟩
      simp only [List.mem_singleton, forall_eq]
      omega

theorem ReleaseResult.conserves {due : CheckoutHold → Prop} {holdToken : String} {world : World}
    {result : Outcome CheckoutError Unit × World} {written : List ℤ}
    (spec : ReleaseResult due holdToken world result written) (balanced : world.db.Balanced) :
    Conserves world result written := by
  cases spec with
  | raised error => exact ⟨balanced, by simp, fun _ _ => rfl⟩
  | ignored => exact ⟨balanced, by simp, nofun⟩
  | overdrawn stored active present short =>
      have part := (balanced.heldMatches _).quantity_le present stored (by simp [active])
      omega
  | released parsed stored active present current =>
      refine ⟨balanced.giveBack present stored active nofun current, ?_, nofun⟩
      simp only [List.mem_singleton, forall_eq]
      omega

theorem Conserves.discard {α : Type} {program : Checkout α} {inputs : ℕ → Input} {world : World}
    (conserves : Runs (Conserves world) program inputs none world) :
    Runs (Conserves world) program.discard inputs none world := by
  unfold Runs heldUpdates
  rw [run_discard, sent_discard]
  refine ⟨conserves.balanced, conserves.nonneg, fun error raised => ?_⟩
  cases outcome : (program.run store none inputs none world).1 with
  | returned value => simp [outcome, Outcome.map] at raised
  | raised other => exact conserves.unchanged other outcome
  | interrupted => simp [outcome, Outcome.map] at raised

/-- One complete request keeps a balanced database balanced. -/
theorem Request.conserves (request : Request) (inputs : ℕ → Input) {world : World}
    (balanced : world.db.Balanced) : Runs (Conserves world) request.program inputs none world := by
  cases request with
  | createHold user tierId quantity =>
      exact Conserves.discard
        ((createHold_run user tierId quantity inputs world).conserves balanced)
  | releaseHoldByToken holdToken =>
      exact (@releaseHoldByToken_run (fun _ => True) holdToken inputs world).conserves balanced
  | releaseHoldOnPaymentTimeout holdToken =>
      exact (releaseHoldOnPaymentTimeout_run holdToken inputs world).conserves balanced

/-- Any sequence of complete requests keeps a balanced database balanced. -/
theorem serialRun_balanced (requests : List (Request × (ℕ → Input))) {world : World}
    (balanced : world.db.Balanced) : (serialRun requests world).db.Balanced := by
  induction requests generalizing world with
  | nil => exact balanced
  | cons head rest ih => exact ih (head.1.conserves head.2 balanced).balanced

/-- **Inventory conservation over serial runs.**  After any sequence of complete
requests every counter is the sum over the ACTIVE holds of its tier, no tier is
oversold and the clamp of `quantity_available` does nothing; the next request
writes no negative counter, and if it raises, every hold and tier stays as it was. -/
theorem inventory_conserved (requests : List (Request × (ℕ → Input))) (world : World)
    (agrees : ∀ id tier, world.db.tiers.get id = some tier →
      tier.quantityHeld = world.db.heldSum id)
    (capacity : ∀ id tier, world.db.tiers.get id = some tier →
      tier.quantityHeld + tier.quantitySold ≤ tier.quantityTotal) :
    let reached := serialRun requests world
    (∀ id tier, reached.db.tiers.get id = some tier →
      tier.quantityHeld = reached.db.heldSum id ∧
        tier.quantityHeld + tier.quantitySold ≤ tier.quantityTotal ∧
        tier.quantityAvailable = (tier.quantityTotal : ℤ) - tier.quantityHeld - tier.quantitySold) ∧
      ∀ (request : Request) (inputs : ℕ → Input),
        (∀ value ∈ heldUpdates request.program inputs reached, 0 ≤ value) ∧
          ∀ error, (request.program.run store none inputs none reached).1 = .raised error →
            (request.program.run store none inputs none reached).2.db = reached.db := by
  have balanced := serialRun_balanced requests ⟨agrees, capacity⟩
  refine ⟨fun id tier present => ⟨balanced.heldMatches id tier present,
    balanced.withinCapacity id tier present, balanced.quantityAvailable_eq present⟩,
    fun request inputs => ?_⟩
  have conserves := request.conserves inputs balanced
  exact ⟨conserves.nonneg, conserves.unchanged⟩

/-! ### A sample -/

namespace Sample

/-- Fixed identifiers. -/
def id (n : ℕ) : Uuid := .ofNat n

/-- The first of two agents. -/
def one : Fin 2 := 0

/-- The second of two agents. -/
def other : Fin 2 := 1

/-- A tier of ten tickets with one ACTIVE hold of two. -/
def world : World where
  db :=
    { tiers := Table.empty.set (id 1) { event := id 0, quantityTotal := 10, quantityHeld := 2 }
      holds := Table.empty.set (id 7)
        { user := id 5, tierId := id 1, quantity := 2, expiresAt := 0 } }
  redis := ⟨fun _ => none, .empty, fun _ => none⟩

theorem world_balanced : world.db.Balanced := by
  constructor
  all_goals
    intro id tier present
    simp only [world, Table.get_set] at present
    split at present
    · subst id
      cases present
      decide +kernel
    · cases present

/-- Place a hold of three, then release the old hold, twice. -/
def requests : List (Request × (ℕ → Input)) :=
  [(.createHold (id 5) (id 1).str 3, fun n => .plain n (id 8)),
    (.releaseHoldByToken (id 7).str, fun n => .plain n (id 9)),
    (.releaseHoldByToken (id 7).str, fun n => .plain n (id 9))]

end Sample

theorem inventory_conserved_sample :
    3 = (serialRun Sample.requests Sample.world).db.heldSum (Sample.id 1) :=
  ((inventory_conserved Sample.requests Sample.world Sample.world_balanced.heldMatches
    Sample.world_balanced.withinCapacity).1 (Sample.id 1)
    { event := Sample.id 0, quantityTotal := 10, quantityHeld := 3 } (by decide +kernel)).1

end Ticketing
