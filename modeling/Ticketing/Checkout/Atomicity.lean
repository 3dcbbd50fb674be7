import Ticketing.Checkout.Sweep

/-!
# Exceptions in `create_hold` and `release_hold_by_token`

Both functions write two tables inside a transaction and three Redis structures
outside of it.  An exception in front of any of their statements, the commit
included, undoes the writes to the tables and nothing else.

## Main Definitions

* `CreateHoldCut`, `ReleaseCut` — how a run with an exception in front of one of
  its statements ends
* `StopsBy` — the exception comes no later than a given statement

## Main Results

* `createHold_cut`, `releaseHoldByToken_cut` — one specification for each function
* `exceptions_leave` — what an exception leaves in the tables and in Redis
* `entry_without_hold` — an exception after which Redis and the tables disagree

## Design Notes

The database is the source of truth and the registry a read cache of it: every
reader confirms what it has found there in the database.
-/

namespace Ticketing

open Transactional Program

/-! ## Statements of a run that is cut off -/

section Cut

variable {α : Type} (n : ℕ) (inputs : ℕ → Input) (saved : Option World) (world : World)

theorem cut_env (stmt : EnvStmt) (next : stmt.Res → Checkout α) :
    (call (S := signature) (.env stmt) next).run store (some (n + 1)) inputs saved world
      = (next (stmt.answer (inputs 0))).run store (some n) (fun n => inputs (n + 1)) saved
          world := by
  rw [run_call_succ, exec_env]

theorem cut_redis (stmt : RedisStmt) (next : stmt.Res → Checkout α) :
    (call (S := signature) (.redis stmt) next).run store (some (n + 1)) inputs saved world
      = (next (world.redis.exec (inputs 0) stmt).1).run store (some n) (fun n => inputs (n + 1))
          saved { world with redis := (world.redis.exec (inputs 0) stmt).2 } := by
  rw [run_call_succ, exec_redis]

theorem cut_sql_ok {stmt : SqlStmt} {answer : stmt.Res} {db : Database}
    (next : stmt.Res → Checkout α) (result : world.db.exec (inputs 0) stmt = .ok (answer, db)) :
    (call (S := signature) (.sql stmt) next).run store (some (n + 1)) inputs saved world
      = (next answer).run store (some n) (fun n => inputs (n + 1)) saved
          { world with db := db } := by
  rw [run_call_succ]
  simp only [store, World.exec, result]
  rfl

theorem cut_sql_error {stmt : SqlStmt} {error : CheckoutError} (next : stmt.Res → Checkout α)
    (result : world.db.exec (inputs 0) stmt = .error error) :
    (call (S := signature) (.sql stmt) next).run store (some (n + 1)) inputs saved world
      = (.raised error, store.abort saved world) := by
  rw [run_call_succ]
  simp only [store, World.exec, result]
  rfl

/-- The exception in front of a statement of a transaction rolls it back. -/
theorem cut_here (opened : World) (stmt : Stmt) (next : signature.Res stmt → Checkout α) :
    (call (S := signature) stmt next).run store (some 0) inputs (some opened) world
      = (.interrupted, { world with db := opened.db }) := by
  rw [run_call_interrupted]
  rfl

end Cut

/-! ## `create_hold` -/

/-- How a run of `create_hold` with an exception in front of its statement `fault`
ends: it returns, or it leaves the database as it was.  Number 8 of its statements
is the `cache.set` of `register_hold`, 9 is `ZADD`, 10 deletes the availability and
11 is the commit. -/
inductive CreateHoldCut (user : Uuid) (tierId : String) (quantity : ℤ) (world : World) :
    Option ℕ → Outcome CheckoutError (Uuid × CheckoutHold) × World → Prop
  | returned (fault : Option ℕ) (value : Uuid × CheckoutHold) (after : World) :
      CreateHoldCut user tierId quantity world fault (.returned value, after)
  | raised (fault : Option ℕ) (error : CheckoutError) :
      CreateHoldCut user tierId quantity world fault (.raised error, world)
  | early {n : ℕ} (before : n ≤ 8) :
      CreateHoldCut user tierId quantity world (some n) (.interrupted, world)
  | registered (token : Uuid) (expiresAt dies : Time) (absent : world.db.holds.get token = none) :
      CreateHoldCut user tierId quantity world (some 9)
        (.interrupted, { world with redis := { world.redis with
          registry := Function.update world.redis.registry token.str
            (some ({ tierId, quantity, expiresAt, userId := user.str }, dies)) } })
  | queued {n : ℕ} (later : 10 ≤ n) (token : Uuid) (expiresAt dies : Time)
      (absent : world.db.holds.get token = none) (availability : String → Option (ℤ × Time)) :
      CreateHoldCut user tierId quantity world (some n)
        (.interrupted, { world with redis := {
          registry := Function.update world.redis.registry token.str
            (some ({ tierId, quantity, expiresAt, userId := user.str }, dies))
          expiryZset := world.redis.expiryZset.add token.str expiresAt
          availability := availability } })

theorem placeHold_cut {world : World} {id : Uuid} {tier : TicketTier} (user : Uuid)
    (tierId : String) (quantity : ℤ) (n : ℕ) (inputs : ℕ → Input)
    (present : world.db.tiers.get id = some tier) :
    CreateHoldCut user tierId quantity world (some (n + 3))
      ((placeHold user tierId id tier quantity >>= fun value => commit (done value)).run store
        (some n) inputs (some world) world) := by
  simp only [placeHold, now, uuid4, sql, redis, registerHold, pushHoldExpiry,
    invalidateAvailability, send, call_bind, done_bind]
  -- the statements of `placeHold` one by one: up to the `cache.set` a rollback undoes all
  rcases n with _ | _ | n
  · rw [cut_here]
    exact .early (by omega)
  · simp only [cut_env, cut_here]
    exact .early (by omega)
  · simp only [cut_env, EnvStmt.answer]
    set token := (inputs 1).uuid
    set expiresAt := (inputs 0).now + holdDuration
    by_cases rejected : quantity < 0 ∨ world.db.tiers.get id = none ∨
        (world.db.holds.get token).isSome
    · have insert : world.db.exec (inputs 2) (.insertHold token user id quantity expiresAt)
          = .error .integrity := if_pos rejected
      cases n with
      | zero =>
        rw [cut_here]
        exact .early (by omega)
      | succ n =>
        rw [cut_sql_error _ _ _ _ _ insert]
        exact .raised _ _
    · have insert : world.db.exec (inputs 2) (.insertHold token user id quantity expiresAt)
          = .ok (_, { world.db with holds := _ }) := if_neg rejected
      simp only [not_or, not_lt, Option.not_isSome_iff_eq_none] at rejected
      obtain ⟨nonneg, -, absent⟩ := rejected
      have notNegative : ¬ (HeldExpr.plus tier.quantityHeld quantity).value < 0 := by
        simp only [HeldExpr.value]
        omega
      set held := (HeldExpr.plus tier.quantityHeld quantity).value.toNat
      have update (holds : Table Uuid CheckoutHold) : Database.exec (inputs 3)
          (.updateQuantityHeld id (.plus tier.quantityHeld quantity)) ⟨world.db.tiers, holds⟩
            = .ok ((), ⟨world.db.tiers.set id { tier with quantityHeld := held }, holds⟩) := by
        simp only [Database.exec, present, if_neg notNegative]
        rfl
      rcases n with _ | _ | n
      · rw [cut_here]
        exact .early (by omega)
      · rw [cut_sql_ok _ _ _ _ _ insert, run_call_interrupted]
        exact .early (by omega)
      · rw [cut_sql_ok _ _ _ _ _ insert, cut_sql_ok _ _ _ _ _ (update _)]
        rcases n with _ | _ | _ | _ | _ | n
        · rw [cut_here]
          exact .early (by omega)
        · simp only [cut_env, cut_here]
          exact .early (by omega)
        -- from here on Redis keeps what the database takes back
        · simp only [cut_env, cut_redis, Redis.exec, cut_here]
          exact .registered token expiresAt _ absent
        · simp only [cut_env, cut_redis, Redis.exec, cut_here]
          exact .queued (by omega) token expiresAt _ absent _
        · simp only [cut_env, cut_redis, Redis.exec]
          exact .queued (by omega) token expiresAt _ absent _
        · simp only [cut_env, cut_redis]
          exact .returned _ _ _

/-- **`create_hold` with an exception anywhere.** -/
theorem createHold_cut (user : Uuid) (tierId : String) (quantity : ℤ) (fault : Option ℕ)
    (inputs : ℕ → Input) (world : World) :
    CreateHoldCut user tierId quantity world fault
      ((createHold user tierId quantity).run store fault inputs none world) := by
  rcases fault with _ | _ | n
  · have spec := createHold_run user tierId quantity inputs world
    simp only [Runs] at spec
    generalize (createHold user tierId quantity).run store none inputs none world = result at *
    generalize heldUpdates (createHold user tierId quantity) inputs world = written at spec
    cases spec with
    | raised error => exact .raised _ error
    | placed => exact .returned _ _ _
  · exact .early (Nat.zero_le 8)
  · unfold createHold atomic
    rw [run_begin_succ]
    cases parsed : Uuid.parse tierId with
    | none => exact .raised _ _
    | some id =>
        simp only [sql, send, call_bind, done_bind]
        cases n with
        | zero =>
            rw [run_call_interrupted]
            exact .early (by omega)
        | succ n =>
            have select : world.db.exec (inputs 0) (.selectTierForUpdate id)
              = .ok (world.db.tiers.get id, world.db) := rfl
            rw [cut_sql_ok _ _ _ _ _ select]
            cases present : world.db.tiers.get id with
            | none => exact .raised _ _
            | some tier =>
                simp only [call_bind]
                cases n with
                | zero =>
                    rw [run_call_interrupted]
                    exact .early (by omega)
                | succ n =>
                    have count : world.db.exec (inputs 1) (.countActiveHolds user tier.event)
                      = .ok (world.db.activeHoldsCount user tier.event, world.db) := rfl
                    rw [cut_sql_ok _ _ _ _ _ count]
                    split
                    · exact .raised _ _
                    · split
                      · exact .raised _ _
                      · exact placeHold_cut user tierId quantity n _ present

/-! ## `release_hold_by_token` -/

/-- How a run of `release_hold_by_token` with an exception in front of its
statement `fault` ends.  Number 5 of its statements is the `cache.delete` of
`release_hold`, 6 deletes the availability and 7 is the commit. -/
inductive ReleaseCut (holdToken : String) (world : World) :
    Option ℕ → Outcome CheckoutError Unit × World → Prop
  | returned (fault : Option ℕ) (after : World) :
      ReleaseCut holdToken world fault (.returned (), after)
  | raised (fault : Option ℕ) (error : CheckoutError) :
      ReleaseCut holdToken world fault (.raised error, world)
  | early {n : ℕ} (before : n ≤ 5) : ReleaseCut holdToken world (some n) (.interrupted, world)
  | deleted {n : ℕ} (later : 6 ≤ n) (availability : String → Option (ℤ × Time)) :
      ReleaseCut holdToken world (some n)
        (.interrupted, { world with redis := {
          registry := Function.update world.redis.registry holdToken none
          expiryZset := world.redis.expiryZset
          availability := availability } })

theorem returnStock_cut {world : World} {token : Uuid} {hold : CheckoutHold} (holdToken : String)
    (n : ℕ) (inputs : ℕ → Input) (stored : world.db.holds.get token = some hold) :
    ReleaseCut holdToken world (some (n + 2))
      ((returnStock holdToken token hold >>= fun value => commit (done value)).run store (some n)
        inputs (some world) world) := by
  simp only [returnStock, sql, redis, releaseHold, invalidateAvailability, send, call_bind,
    done_bind]
  cases n with
  | zero =>
      rw [cut_here]
      exact .early (by omega)
  | succ n =>
      set saved := world.db.holds.set token { hold with status := .released }
      have save : world.db.exec (inputs 0) (.saveStatus token .released)
          = .ok ((), ⟨world.db.tiers, saved⟩) := by
        simp only [Database.exec, stored]
        rfl
      rw [cut_sql_ok _ _ _ _ _ save]
      cases n with
      | zero =>
          rw [cut_here]
          exact .early (by omega)
      | succ n =>
          have select (db : Database) : db.exec (inputs 1) (.selectTier hold.tierId)
            = .ok (db.tiers.get hold.tierId, db) := rfl
          rw [cut_sql_ok _ _ _ _ _ (select _)]
          cases present : world.db.tiers.get hold.tierId with
          | none => exact .raised _ _
          | some tier =>
              simp only [call_bind, done_bind]
              cases n with
              | zero =>
                  rw [cut_here]
                  exact .early (by omega)
              | succ n =>
                  by_cases negative : (HeldExpr.minus tier.quantityHeld token hold).value < 0
                  · have update : Database.exec (inputs 2)
                        (.updateQuantityHeld hold.tierId (.minus tier.quantityHeld token hold))
                        ⟨world.db.tiers, saved⟩ = .error .integrity := by
                      simp only [Database.exec, present, if_pos negative]
                    rw [cut_sql_error _ _ _ _ _ update]
                    exact .raised _ _
                  · set held := (HeldExpr.minus tier.quantityHeld token hold).value.toNat
                    have update : Database.exec (inputs 2)
                        (.updateQuantityHeld hold.tierId (.minus tier.quantityHeld token hold))
                        ⟨world.db.tiers, saved⟩ = .ok ((), ⟨world.db.tiers.set hold.tierId
                          { tier with quantityHeld := held }, saved⟩) := by
                      simp only [Database.exec, present, if_neg negative]
                      rfl
                    rw [cut_sql_ok _ _ _ _ _ update]
                    rcases n with _ | _ | _ | n
                    · rw [cut_here]
                      exact .early (by omega)
                    · simp only [cut_redis, Redis.exec, cut_here]
                      exact .deleted (by omega) _
                    · simp only [cut_redis, Redis.exec]
                      exact .deleted (by omega) _
                    · simp only [cut_redis]
                      exact .returned _ _

/-- **`release_hold_by_token` with an exception anywhere.** -/
theorem releaseHoldByToken_cut (holdToken : String) (fault : Option ℕ) (inputs : ℕ → Input)
    (world : World) :
    ReleaseCut holdToken world fault
      ((releaseHoldByToken holdToken).run store fault inputs none world) := by
  rcases fault with _ | _ | n
  · have spec := @releaseHoldByToken_run (fun _ => True) holdToken inputs world
    simp only [Runs] at spec
    generalize (releaseHoldByToken holdToken).run store none inputs none world = result at *
    generalize heldUpdates (releaseHoldByToken holdToken) inputs world = written at spec
    cases spec with
    | raised error => exact .raised _ error
    | overdrawn => exact .raised _ _
    | ignored => exact .returned _ _
    | released => exact .returned _ _
  · exact .early (Nat.zero_le 5)
  · unfold releaseHoldByToken atomic
    rw [run_begin_succ]
    cases parsed : Uuid.parse holdToken with
    | none => exact .raised _ _
    | some token =>
        simp only [sql, send, call_bind, done_bind]
        cases n with
        | zero =>
            rw [run_call_interrupted]
            exact .early (by omega)
        | succ n =>
            have select : world.db.exec (inputs 0) (.selectActiveHoldForUpdate token)
              = .ok ((world.db.holds.get token).filter (·.status = .active), world.db) := rfl
            rw [cut_sql_ok _ _ _ _ _ select]
            cases found : (world.db.holds.get token).filter (·.status = .active) with
            | none =>
                cases n with
                | zero => exact .early (by omega)
                | succ n => exact .returned _ _
            | some hold =>
                exact returnStock_cut holdToken n _ (Option.filter_eq_some_iff.mp found).1

/-! ## Both together -/

/-- The call raises of its own, or the exception comes no later than statement number `n`. -/
def StopsBy {α : Type} (fault : Option ℕ) (outcome : Outcome CheckoutError α) (n : ℕ) : Prop :=
  (∃ error, outcome = .raised error) ∨ ∃ m ≤ n, fault = some m

theorem not_stopsBy_interrupted {α : Type} {m n : ℕ} :
    ¬ StopsBy (some m) (.interrupted : Outcome CheckoutError α) n ↔ n < m := by
  simp [StopsBy]

/-- The number of the `cache.set` of `register_hold` among the statements of `create_hold`. -/
def registerHoldAt : ℕ := 8

/-- The number of the `ZADD` of `push_hold_expiry` among the statements of `create_hold`. -/
def pushHoldExpiryAt : ℕ := 9

/-- The number of the `cache.delete` of `release_hold` among the statements of
`release_hold_by_token`. -/
def releaseHoldAt : ℕ := 5

theorem CreateHoldCut.leaves {user : Uuid} {tierId : String} {quantity : ℤ} {world : World}
    {fault : Option ℕ} {result : Outcome CheckoutError (Uuid × CheckoutHold) × World}
    (cut : CreateHoldCut user tierId quantity world fault result)
    (unreturned : ∀ value, result.1 ≠ .returned value) :
    result.2.db = world.db ∧
      (StopsBy fault result.1 registerHoldAt → result.2.redis = world.redis) ∧
      (¬ StopsBy fault result.1 registerHoldAt → ∃ token expiresAt dies,
        world.db.holds.get token = none ∧
        result.2.redis.registry = Function.update world.redis.registry token.str
          (some ({ tierId, quantity, expiresAt, userId := user.str }, dies)) ∧
        (StopsBy fault result.1 pushHoldExpiryAt →
          result.2.redis.expiryZset = world.redis.expiryZset) ∧
        (¬ StopsBy fault result.1 pushHoldExpiryAt →
          result.2.redis.expiryZset = world.redis.expiryZset.add token.str expiresAt)) := by
  cases cut with
  | returned fault value => exact (unreturned value rfl).elim
  | raised fault error => exact ⟨rfl, fun _ => rfl, fun late => (late (.inl ⟨error, rfl⟩)).elim⟩
  | early before =>
      refine ⟨rfl, fun _ => rfl, fun late => ?_⟩
      exact absurd (not_stopsBy_interrupted.mp late) (not_lt.mpr before)
  | registered token expiresAt dies absent =>
      refine ⟨rfl, fun stopped => ?_, fun _ => ⟨token, expiresAt, dies, absent, ?_, ?_, ?_⟩⟩
      · exact absurd stopped (not_stopsBy_interrupted.mpr (by decide))
      · dsimp only
      · exact fun _ => rfl
      · exact fun late => absurd (not_stopsBy_interrupted.mp late) (by decide)
  | queued later token expiresAt dies absent availability =>
      refine ⟨rfl, fun stopped => ?_, fun _ => ⟨token, expiresAt, dies, absent, ?_, ?_, ?_⟩⟩
      · refine absurd stopped (not_stopsBy_interrupted.mpr ?_)
        exact lt_of_lt_of_le (by decide) later
      · dsimp only
      · exact fun stopped => absurd stopped (not_stopsBy_interrupted.mpr later)
      · exact fun _ => rfl

theorem ReleaseCut.leaves {holdToken : String} {world : World} {fault : Option ℕ}
    {result : Outcome CheckoutError Unit × World} (cut : ReleaseCut holdToken world fault result)
    (unreturned : ∀ value, result.1 ≠ .returned value) :
    result.2.db = world.db ∧
      (StopsBy fault result.1 releaseHoldAt → result.2.redis = world.redis) ∧
      (¬ StopsBy fault result.1 releaseHoldAt →
        result.2.redis.registry = Function.update world.redis.registry holdToken none ∧
          result.2.redis.expiryZset = world.redis.expiryZset) := by
  cases cut with
  | returned fault => exact (unreturned () rfl).elim
  | raised fault error => exact ⟨rfl, fun _ => rfl, fun late => (late (.inl ⟨error, rfl⟩)).elim⟩
  | early before =>
      refine ⟨rfl, fun _ => rfl, fun late => ?_⟩
      exact absurd (not_stopsBy_interrupted.mp late) (not_lt.mpr before)
  | deleted later availability =>
      refine ⟨rfl, fun stopped => ?_, fun _ => ⟨?_, rfl⟩⟩
      · exact absurd stopped (not_stopsBy_interrupted.mpr later)
      · dsimp only

/-- **What an exception leaves.**  Whatever raises, and wherever it does, holds
and tiers are as before the call.  So is Redis when the exception comes no later
than the first write to it; after `register_hold` the entry of the new token
stays behind, after `push_hold_expiry` its place in the sorted set, and after
`release_hold` the entry stays deleted. -/
theorem exceptions_leave (fault : Option ℕ) (inputs : ℕ → Input) (world : World) :
    (∀ user tierId quantity,
      let result := (createHold user tierId quantity).run store fault inputs none world
      (∀ value, result.1 ≠ .returned value) →
        result.2.db = world.db ∧
        (StopsBy fault result.1 registerHoldAt → result.2.redis = world.redis) ∧
        (¬ StopsBy fault result.1 registerHoldAt → ∃ token expiresAt dies,
          world.db.holds.get token = none ∧
          result.2.redis.registry = Function.update world.redis.registry token.str
            (some ({ tierId, quantity, expiresAt, userId := user.str }, dies)) ∧
          (StopsBy fault result.1 pushHoldExpiryAt →
            result.2.redis.expiryZset = world.redis.expiryZset) ∧
          (¬ StopsBy fault result.1 pushHoldExpiryAt →
            result.2.redis.expiryZset = world.redis.expiryZset.add token.str expiresAt))) ∧
    ∀ holdToken,
      let result := (releaseHoldByToken holdToken).run store fault inputs none world
      (∀ value, result.1 ≠ .returned value) →
        result.2.db = world.db ∧
        (StopsBy fault result.1 releaseHoldAt → result.2.redis = world.redis) ∧
        (¬ StopsBy fault result.1 releaseHoldAt →
          result.2.redis.registry = Function.update world.redis.registry holdToken none ∧
            result.2.redis.expiryZset = world.redis.expiryZset) :=
  ⟨fun user tierId quantity => (createHold_cut user tierId quantity fault inputs world).leaves,
    fun holdToken => (releaseHoldByToken_cut holdToken fault inputs world).leaves⟩

namespace Sample

/-- `world` with the entry of its hold in the registry. -/
def registered : World :=
  let entry : HoldEntry := ⟨(id 1).str, 2, 0, (id 5).str⟩
  let registry := Function.update world.redis.registry (id 7).str (some (entry, 60 * second))
  { world with redis := { world.redis with registry } }

end Sample

theorem exceptions_leave_sample :
    ((createHold (Sample.id 5) (Sample.id 1).str 3).run store (some 9) Sample.atZero none
      Sample.world).2.db = Sample.world.db := by
  have interrupted : ((createHold (Sample.id 5) (Sample.id 1).str 3).run store (some 9)
      Sample.atZero none Sample.world).1 = .interrupted := by
    decide +kernel
  refine ((exceptions_leave (some 9) Sample.atZero Sample.world).1 (Sample.id 5)
    (Sample.id 1).str 3 fun value returned => ?_).1
  cases interrupted.symm.trans returned

/-- **Redis keeps what was written.**  Cut off at `push_hold_expiry`, `create_hold`
leaves a registry entry without a hold; cut off at `invalidate_availability`,
`release_hold_by_token` leaves an ACTIVE hold without its entry. -/
theorem entry_without_hold :
    let created := (createHold (Sample.id 5) (Sample.id 1).str 3).run store (some 9) Sample.atZero
      none Sample.world
    let released := (releaseHoldByToken (Sample.id 7).str).run store (some 6) Sample.atZero none
      Sample.registered
    (created.1 = .interrupted ∧ Sample.world.redis.registry (Sample.id 9).str = none ∧
      (created.2.redis.registry (Sample.id 9).str).isSome ∧
      created.2.db.holds.get (Sample.id 9) = none) ∧
    released.1 = .interrupted ∧ (Sample.registered.redis.registry (Sample.id 7).str).isSome ∧
      released.2.redis.registry (Sample.id 7).str = none ∧
      (released.2.db.holds.get (Sample.id 7)).map CheckoutHold.status = some .active := by
  refine ⟨⟨?_, ?_, ?_, ?_⟩, ?_, ?_, ?_, ?_⟩ <;> decide +kernel

end Ticketing
